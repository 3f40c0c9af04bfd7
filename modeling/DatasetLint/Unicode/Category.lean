import DatasetLint.Unicode.CharSet

/-!
# General categories

Every code point has one of thirty categories, known by two letters of which the first names
the group: `Lu` is a letter, `Zs` a separator.
-/

namespace DatasetLint.Unicode

/-- The runs of one general category. -/
def categories : CharMap String := .ofPairs String.ofList [
  "0 Cc w Zs 1 Po 3 Sc 1 Po 3 Ps 1 Pe 1 Po 1 Sm 1 Po 1 Pd 1 Po 2 Nd a Po 2 Sm 3 Po 2 Lu",
  "q Ps 1 Po 1 Pe 1 Sk 1 Pc 1 Sk 1 Ll q Ps 1 Sm 1 Pe 1 Sm 1 Cc x Zs 1 Po 1 Sc 4 So 1 Po",
  "1 Sk 1 So 1 Lo 1 Pi 1 Sm 1 Cf 1 So 1 Sk 1 So 1 Sm 1 No 2 Sk 1 Ll 1 Po 2 Sk 1 No 1 Lo",
  "1 Pf 1 No 3 Po 1 Lu n Sm 1 Lu 7 Ll o Sm 1 Ll 8 Lu 1 Ll 1 Lu 1 Ll 1 Lu 1 Ll 1 Lu 1 Ll",
  "1 Lu 1 Ll 1 Lu 1 Ll 1 Lu 1 Ll 1 Lu 1 Ll 1 Lu 1 Ll 1 Lu 1 Ll 1 Lu 1 Ll 1 Lu 1 Ll 1 Lu",
  "1 Ll 1 Lu 1 Ll 1 Lu 1 Ll 1 Lu 1 Ll 1 Lu 1 Ll 1 Lu 1 Ll 1 Lu 1 Ll 1 Lu 1 Ll 1 Lu 1 Ll",
  "1 Lu 1 Ll 1 Lu 1 Ll 1 Lu 1 Ll 1 Lu 1 Ll 1 Lu 1 Ll 1 Lu 1 Ll 1 Lu 1 Ll 2 Lu 1 Ll 1 Lu",
  "1 Ll 1 Lu 1 Ll 1 Lu 1 Ll 1 Lu 1 Ll 1 Lu 1 Ll 1 Lu 1 Ll 1 Lu 1 Ll 2 Lu 1 Ll 1 Lu 1 Ll",
  "1 Lu 1 Ll 1 Lu 1 Ll 1 Lu 1 Ll 1 Lu 1 Ll 1 Lu 1 Ll 1 Lu 1 Ll 1 Lu 1 Ll 1 Lu 1 Ll 1 Lu",
  "1 Ll 1 Lu 1 Ll 1 Lu 1 Ll 1 Lu 1 Ll 1 Lu 1 Ll 1 Lu 1 Ll 1 Lu 1 Ll 1 Lu 1 Ll 1 Lu 1 Ll",
  "1 Lu 1 Ll 1 Lu 1 Ll 1 Lu 1 Ll 1 Lu 1 Ll 1 Lu 2 Ll 1 Lu 1 Ll 1 Lu 1 Ll 3 Lu 2 Ll 1 Lu",
  "1 Ll 1 Lu 2 Ll 1 Lu 3 Ll 2 Lu 4 Ll 1 Lu 2 Ll 1 Lu 3 Ll 3 Lu 2 Ll 1 Lu 2 Ll 1 Lu 1 Ll",
  "1 Lu 1 Ll 1 Lu 2 Ll 1 Lu 1 Ll 2 Lu 1 Ll 1 Lu 2 Ll 1 Lu 3 Ll 1 Lu 1 Ll 1 Lu 2 Ll 2 Lo",
  "1 Lu 1 Ll 3 Lo 4 Lu 1 Lt 1 Ll 1 Lu 1 Lt 1 Ll 1 Lu 1 Lt 1 Ll 1 Lu 1 Ll 1 Lu 1 Ll 1 Lu",
  "1 Ll 1 Lu 1 Ll 1 Lu 1 Ll 1 Lu 1 Ll 1 Lu 1 Ll 1 Lu 1 Ll 2 Lu 1 Ll 1 Lu 1 Ll 1 Lu 1 Ll",
  "1 Lu 1 Ll 1 Lu 1 Ll 1 Lu 1 Ll 1 Lu 1 Ll 1 Lu 1 Ll 1 Lu 1 Ll 2 Lu 1 Lt 1 Ll 1 Lu 1 Ll",
  "1 Lu 3 Ll 1 Lu 1 Ll 1 Lu 1 Ll 1 Lu 1 Ll 1 Lu 1 Ll 1 Lu 1 Ll 1 Lu 1 Ll 1 Lu 1 Ll 1 Lu",
  "1 Ll 1 Lu 1 Ll 1 Lu 1 Ll 1 Lu 1 Ll 1 Lu 1 Ll 1 Lu 1 Ll 1 Lu 1 Ll 1 Lu 1 Ll 1 Lu 1 Ll",
  "1 Lu 1 Ll 1 Lu 1 Ll 1 Lu 1 Ll 1 Lu 1 Ll 1 Lu 1 Ll 1 Lu 1 Ll 1 Lu 1 Ll 1 Lu 1 Ll 1 Lu",
  "1 Ll 1 Lu 1 Ll 1 Lu 1 Ll 1 Lu 1 Ll 1 Lu 1 Ll 7 Lu 2 Ll 1 Lu 2 Ll 2 Lu 1 Ll 1 Lu 4 Ll",
  "1 Lu 1 Ll 1 Lu 1 Ll 1 Lu 1 Ll 1 Lu 1 Ll 1x Lo 1 Ll r Lm i Sk 4 Lm c Sk e Lm 5 Sk 7 Lm",
  "1 Sk 1 Lm 1 Sk h Mn 34 Lu 1 Ll 1 Lu 1 Ll 1 Lm 1 Sk 1 Lu 1 Ll 1 Cn 2 Lm 1 Ll 3 Po 1 Lu",
  "1 Cn 4 Sk 2 Lu 1 Po 1 Lu 3 Cn 1 Lu 1 Cn 1 Lu 2 Ll 1 Lu h Cn 1 Lu 9 Ll z Lu 1 Ll 2 Lu",
  "3 Ll 3 Lu 1 Ll 1 Lu 1 Ll 1 Lu 1 Ll 1 Lu 1 Ll 1 Lu 1 Ll 1 Lu 1 Ll 1 Lu 1 Ll 1 Lu 1 Ll",
  "1 Lu 1 Ll 1 Lu 1 Ll 1 Lu 1 Ll 1 Lu 1 Ll 5 Lu 1 Ll 1 Sm 1 Lu 1 Ll 1 Lu 2 Ll 2 Lu 1f Ll",
  "1c Lu 1 Ll 1 Lu 1 Ll 1 Lu 1 Ll 1 Lu 1 Ll 1 Lu 1 Ll 1 Lu 1 Ll 1 Lu 1 Ll 1 Lu 1 Ll 1 Lu",
  "1 Ll 1 Lu 1 Ll 1 Lu 1 Ll 1 Lu 1 Ll 1 Lu 1 Ll 1 Lu 1 Ll 1 Lu 1 Ll 1 Lu 1 Ll 1 Lu 1 Ll",
  "1 So 1 Mn 5 Me 2 Lu 1 Ll 1 Lu 1 Ll 1 Lu 1 Ll 1 Lu 1 Ll 1 Lu 1 Ll 1 Lu 1 Ll 1 Lu 1 Ll",
  "1 Lu 1 Ll 1 Lu 1 Ll 1 Lu 1 Ll 1 Lu 1 Ll 1 Lu 1 Ll 1 Lu 1 Ll 1 Lu 1 Ll 1 Lu 1 Ll 1 Lu",
  "1 Ll 1 Lu 1 Ll 1 Lu 1 Ll 1 Lu 1 Ll 1 Lu 1 Ll 1 Lu 1 Ll 1 Lu 1 Ll 1 Lu 1 Ll 1 Lu 1 Ll",
  "1 Lu 1 Ll 1 Lu 1 Ll 1 Lu 1 Ll 1 Lu 2 Ll 1 Lu 1 Ll 1 Lu 1 Ll 1 Lu 1 Ll 1 Lu 1 Ll 1 Lu",
  "1 Ll 1 Lu 1 Ll 2 Lu 1 Ll 1 Lu 1 Ll 1 Lu 1 Ll 1 Lu 1 Ll 1 Lu 1 Ll 1 Lu 1 Ll 1 Lu 1 Ll",
  "1 Lu 1 Ll 1 Lu 1 Ll 1 Lu 1 Ll 1 Lu 1 Ll 1 Lu 1 Ll 1 Lu 1 Ll 1 Lu 1 Ll 1 Lu 1 Ll 1 Lu",
  "1 Ll 1 Lu 1 Ll 1 Lu 1 Ll 1 Lu 1 Ll 1 Lu 1 Ll 1 Lu 1 Ll 1 Lu 1 Ll 1 Lu 1 Ll 1 Lu 1 Ll",
  "1 Lu 1 Ll 1 Lu 1 Ll 1 Lu 1 Ll 1 Lu 1 Ll 1 Lu 1 Ll 1 Lu 1 Ll 1 Lu 1 Ll 1 Lu 1 Ll 1 Lu",
  "1 Ll 1 Lu 1 Ll 1 Lu 1 Ll 1 Lu 1 Ll 1 Lu 1 Ll 1 Lu 1 Ll 1 Lu 1 Ll 1 Lu 1 Ll 1 Lu 1 Ll",
  "1 Lu 1 Ll 1 Lu 1 Ll 1 Lu 1 Ll 1 Lu 1 Ll 1 Lu 1 Ll 1 Lu 1 Ll 1 Lu 1 Ll 1 Cn 1 Lu 12 Cn",
  "2 Lm 1 Po 6 Ll 15 Po 1 Pd 1 Cn 2 So 2 Sc 1 Cn 1 Mn 19 Pd 1 Mn 1 Po 1 Mn 2 Po 1 Mn 2 Po",
  "1 Mn 1 Cn 8 Lo r Cn 4 Lo 4 Po 2 Cn b Cf 6 Sm 3 Po 2 Sc 1 Po 2 So 2 Mn b Po 1 Cf 1 Po",
  "3 Lo w Lm 1 Lo a Mn l Nd a Po 4 Lo 2 Mn 1 Lo 2r Po 1 Lo 1 Mn 7 Cf 1 So 1 Mn 6 Lm 2 Mn",
  "2 So 1 Mn 4 Lo 2 Nd a Lo 3 So 2 Lo 1 Po e Cn 1 Cf 1 Lo 1 Mn 1 Lo u Mn r Cn 2 Lo 2h Mn",
  "b Lo 1 Cn e Nd a Lo x Mn 9 Lm 2 So 1 Po 3 Lm 1 Cn 2 Mn 1 Sc 2 Lo m Mn 4 Lm 1 Mn 9 Lm",
  "1 Mn 3 Lm 1 Mn 5 Cn 2 Po f Cn 1 Lo p Mn 3 Cn 2 Po 1 Cn 1 Lo b Cn 5 Lo o Sk 1 Lo 6 Cn",
  "1 Cf 2 Cn 6 Mn 8 Lo 15 Lm 1 Mn o Cf 1 Mn w Mc 1 Lo 1i Mn 1 Mc 1 Mn 1 Lo 1 Mc 3 Mn 8 Mc",
  "4 Mn 1 Mc 2 Lo 1 Mn 7 Lo a Mn 2 Po 2 Nd a Po 1 Lm 1 Lo f Mn 1 Mc 2 Cn 1 Lo 8 Cn 2 Lo",
  "2 Cn 2 Lo m Cn 1 Lo 7 Cn 1 Lo 1 Cn 3 Lo 4 Cn 2 Mn 1 Lo 1 Mc 3 Mn 4 Cn 2 Mc 2 Cn 2 Mc",
  "2 Mn 1 Lo 1 Cn 8 Mc 1 Cn 4 Lo 2 Cn 1 Lo 3 Mn 2 Cn 2 Nd a Lo 2 Sc 2 No 6 So 1 Sc 1 Lo",
  "1 Po 1 Mn 1 Cn 2 Mn 2 Mc 1 Cn 1 Lo 6 Cn 4 Lo 2 Cn 2 Lo m Cn 1 Lo 7 Cn 1 Lo 2 Cn 1 Lo",
  "2 Cn 1 Lo 2 Cn 2 Mn 1 Cn 1 Mc 3 Mn 2 Cn 4 Mn 2 Cn 2 Mn 3 Cn 3 Mn 1 Cn 7 Lo 4 Cn 1 Lo",
  "1 Cn 7 Nd a Mn 2 Lo 3 Mn 1 Po 1 Cn a Mn 2 Mc 1 Cn 1 Lo 9 Cn 1 Lo 3 Cn 1 Lo m Cn 1 Lo",
  "7 Cn 1 Lo 2 Cn 1 Lo 5 Cn 2 Mn 1 Lo 1 Mc 3 Mn 5 Cn 1 Mn 2 Mc 1 Cn 1 Mc 2 Mn 1 Cn 2 Lo",
  "1 Cn f Lo 2 Mn 2 Cn 2 Nd a Po 1 Sc 1 Cn 7 Lo 1 Mn 6 Cn 1 Mn 1 Mc 2 Cn 1 Lo 8 Cn 2 Lo",
  "2 Cn 2 Lo m Cn 1 Lo 7 Cn 1 Lo 2 Cn 1 Lo 5 Cn 2 Mn 1 Lo 1 Mc 1 Mn 1 Mc 1 Mn 4 Cn 2 Mc",
  "2 Cn 2 Mc 2 Mn 1 Cn 7 Mn 2 Mc 1 Cn 4 Lo 2 Cn 1 Lo 3 Mn 2 Cn 2 Nd a So 1 Lo 1 No 6 Cn",
  "a Mn 1 Lo 1 Cn 1 Lo 6 Cn 3 Lo 3 Cn 1 Lo 4 Cn 3 Lo 2 Cn 1 Lo 1 Cn 1 Lo 2 Cn 3 Lo 2 Cn",
  "3 Lo 3 Cn 3 Lo c Cn 4 Mc 2 Mn 1 Mc 2 Cn 3 Mc 3 Cn 1 Mc 3 Mn 1 Cn 2 Lo 1 Cn 6 Mc 1 Cn",
  "e Nd a No 3 So 6 Sc 1 So 1 Cn 5 Mn 1 Mc 3 Mn 1 Lo 8 Cn 1 Lo 3 Cn 1 Lo n Cn 1 Lo g Cn",
  "2 Mn 1 Lo 1 Mn 3 Mc 4 Cn 1 Mn 3 Cn 1 Mn 4 Cn 7 Mn 2 Cn 1 Lo 3 Cn 2 Lo 1 Cn 2 Lo 2 Mn",
  "2 Cn 2 Nd a Cn 7 Po 1 No 7 So 1 Lo 1 Mn 1 Mc 2 Po 1 Lo 8 Cn 1 Lo 3 Cn 1 Lo n Cn 1 Lo",
  "a Cn 1 Lo 5 Cn 2 Mn 1 Lo 1 Mc 1 Mn 1 Mc 5 Cn 1 Mn 1 Mc 2 Cn 1 Mc 2 Mn 2 Cn 7 Mc 2 Cn",
  "6 Lo 2 Cn 1 Lo 2 Mn 2 Cn 2 Nd a Cn 1 Lo 2 Mc 1 Cn c Mn 2 Mc 2 Lo 9 Cn 1 Lo 3 Cn 1 Lo",
  "15 Mn 2 Lo 1 Mc 3 Mn 4 Cn 1 Mc 3 Cn 1 Mc 3 Mn 1 Lo 1 So 1 Cn 4 Lo 3 Mc 1 No 7 Lo 3 Mn",
  "2 Cn 2 Nd a No 9 So 1 Lo 6 Cn 1 Mn 1 Mc 2 Cn 1 Lo i Cn 3 Lo o Cn 1 Lo 9 Cn 1 Lo 1 Cn",
  "2 Lo 7 Cn 3 Mn 1 Cn 4 Mc 3 Mn 3 Cn 1 Mn 1 Cn 1 Mc 8 Cn 6 Nd a Cn 2 Mc 2 Po 1 Cn c Lo",
  "1c Mn 1 Lo 2 Mn 7 Cn 4 Sc 1 Lo 6 Lm 1 Mn 8 Po 1 Nd a Po 2 Cn 11 Lo 2 Cn 1 Lo 1 Cn 1 Lo",
  "5 Cn 1 Lo o Cn 1 Lo 1 Cn 1 Lo a Mn 1 Lo 2 Mn 9 Lo 1 Cn 2 Lo 5 Cn 1 Lm 1 Cn 1 Mn 7 Cn",
  "1 Nd a Cn 2 Lo 4 Cn w Lo 1 So 3 Po f So 1 Po 1 So 3 Mn 2 So 6 Nd a No a So 1 Mn 1 So",
  "1 Mn 1 So 1 Mn 1 Ps 1 Pe 1 Ps 1 Pe 1 Mc 2 Lo 8 Cn 1 Lo 10 Cn 4 Mn e Mc 1 Mn 5 Po 1 Mn",
  "2 Lo 5 Mn b Cn 1 Mn 10 Cn 1 So 8 Mn 1 So 6 Cn 1 So 2 Po 5 So 4 Po 2 Cn 11 Lo 17 Mc 2 Mn",
  "4 Mc 1 Mn 6 Mc 1 Mn 2 Mc 2 Mn 2 Lo 1 Nd a Po 6 Lo 6 Mc 2 Mn 2 Lo 4 Mn 3 Lo 1 Mc 3 Lo",
  "2 Mc 7 Lo 3 Mn 4 Lo d Mn 1 Mc 2 Mn 2 Mc 6 Mn 1 Lo 1 Mc 1 Nd a Mc 3 Mn 1 So 2 Lu 12 Cn",
  "1 Lu 1 Cn 5 Lu 1 Cn 2 Ll 17 Po 1 Lm 1 Ll 3 Lo 95 Cn 1 Lo 4 Cn 2 Lo 7 Cn 1 Lo 1 Cn 1 Lo",
  "4 Cn 2 Lo 15 Cn 1 Lo 4 Cn 2 Lo x Cn 1 Lo 4 Cn 2 Lo 7 Cn 1 Lo 1 Cn 1 Lo 4 Cn 2 Lo f Cn",
  "1 Lo 1l Cn 1 Lo 4 Cn 2 Lo 1v Cn 2 Mn 3 Po 9 No k Cn 3 Lo g So a Cn 6 Lu 2e Cn 2 Ll 6 Cn",
  "2 Pd 1 Lo h8 So 1 Po 1 Lo h Zs 1 Lo q Ps 1 Pe 1 Cn 3 Lo 23 Po 3 Nl 3 Lo 8 Cn 7 Lo i Mn",
  "3 Mc 1 Cn 9 Lo j Mn 2 Mc 1 Po 2 Cn 9 Lo i Mn 2 Cn c Lo d Cn 1 Lo 3 Cn 1 Mn 2 Cn c Lo",
  "1g Mn 2 Mc 1 Mn 7 Mc 8 Mn 1 Mc 2 Mn b Po 3 Lm 1 Po 3 Sc 1 Lo 1 Mn 1 Cn 2 Nd a Cn 6 No",
  "a Cn 6 Po 6 Pd 1 Po 4 Mn 3 Cf 1 Mn 1 Nd a Cn 6 Lo z Lm 1 Lo 1h Cn 7 Lo 5 Mn 2 Lo y Mn",
  "1 Lo 1 Cn 5 Lo 1y Cn a Lo v Cn 1 Mn 3 Mc 4 Mn 2 Mc 3 Cn 4 Mc 2 Mn 1 Mc 6 Mn 3 Cn 4 So",
  "1 Cn 3 Po 2 Nd a Lo u Cn 2 Lo 5 Cn b Lo 18 Cn 4 Lo q Cn 6 Nd a No 1 Cn 3 So y Lo n Mn",
  "2 Mc 2 Mn 1 Cn 2 Po 2 Lo 1h Mc 1 Mn 1 Mc 1 Mn 7 Cn 1 Mn 1 Mc 1 Mn 1 Mc 2 Mn 8 Mc 6 Mn",
  "a Cn 2 Mn 1 Nd a Cn 6 Nd a Cn 6 Po 7 Lm 1 Po 6 Cn 2 Mn e Me 1 Mn g Cn 1d Mn 4 Mc 1 Lo",
  "1b Mn 1 Mc 1 Mn 5 Mc 1 Mn 1 Mc 5 Mn 1 Mc 2 Lo 8 Cn 3 Nd a Po 7 So a Mn 9 So 9 Po 2 Cn",
  "1 Mn 2 Mc 1 Lo u Mc 1 Mn 4 Mc 2 Mn 2 Mc 1 Mn 3 Lo 2 Nd a Lo 18 Mn 1 Mc 1 Mn 2 Mc 3 Mn",
  "1 Mc 1 Mn 3 Mc 2 Cn 8 Po 4 Lo 10 Mc 8 Mn 8 Mc 2 Mn 2 Cn 3 Po 5 Nd a Cn 3 Lo 3 Nd a Lo",
  "u Lm 6 Po 2 Ll 9 Cn 7 Lu 17 Cn 2 Lu 3 Po 8 Cn 8 Mn 3 Po 1 Mn d Mc 1 Mn 7 Lo 4 Mn 1 Lo",
  "6 Mn 1 Lo 2 Mc 1 Mn 2 Lo 1 Cn 5 Ll 18 Lm 1r Ll d Lm 1 Ll y Lm 11 Mn 1s Lu 1 Ll 1 Lu 1 Ll",
  "1 Lu 1 Ll 1 Lu 1 Ll 1 Lu 1 Ll 1 Lu 1 Ll 1 Lu 1 Ll 1 Lu 1 Ll 1 Lu 1 Ll 1 Lu 1 Ll 1 Lu",
  "1 Ll 1 Lu 1 Ll 1 Lu 1 Ll 1 Lu 1 Ll 1 Lu 1 Ll 1 Lu 1 Ll 1 Lu 1 Ll 1 Lu 1 Ll 1 Lu 1 Ll",
  "1 Lu 1 Ll 1 Lu 1 Ll 1 Lu 1 Ll 1 Lu 1 Ll 1 Lu 1 Ll 1 Lu 1 Ll 1 Lu 1 Ll 1 Lu 1 Ll 1 Lu",
  "1 Ll 1 Lu 1 Ll 1 Lu 1 Ll 1 Lu 1 Ll 1 Lu 1 Ll 1 Lu 1 Ll 1 Lu 1 Ll 1 Lu 1 Ll 1 Lu 1 Ll",
  "1 Lu 1 Ll 1 Lu 1 Ll 1 Lu 1 Ll 1 Lu 1 Ll 1 Lu 1 Ll 1 Lu 1 Ll 1 Lu 1 Ll 1 Lu 1 Ll 1 Lu",
  "1 Ll 1 Lu 1 Ll 1 Lu 1 Ll 1 Lu 1 Ll 1 Lu 1 Ll 1 Lu 1 Ll 1 Lu 1 Ll 1 Lu 1 Ll 1 Lu 1 Ll",
  "1 Lu 1 Ll 1 Lu 1 Ll 1 Lu 1 Ll 1 Lu 1 Ll 1 Lu 1 Ll 1 Lu 1 Ll 1 Lu 1 Ll 1 Lu 1 Ll 1 Lu",
  "1 Ll 1 Lu 1 Ll 1 Lu 1 Ll 1 Lu 1 Ll 1 Lu 1 Ll 1 Lu 1 Ll 1 Lu 1 Ll 1 Lu 1 Ll 1 Lu 1 Ll",
  "1 Lu 1 Ll 1 Lu 1 Ll 1 Lu 1 Ll 1 Lu 1 Ll 1 Lu 1 Ll 9 Lu 1 Ll 1 Lu 1 Ll 1 Lu 1 Ll 1 Lu",
  "1 Ll 1 Lu 1 Ll 1 Lu 1 Ll 1 Lu 1 Ll 1 Lu 1 Ll 1 Lu 1 Ll 1 Lu 1 Ll 1 Lu 1 Ll 1 Lu 1 Ll",
  "1 Lu 1 Ll 1 Lu 1 Ll 1 Lu 1 Ll 1 Lu 1 Ll 1 Lu 1 Ll 1 Lu 1 Ll 1 Lu 1 Ll 1 Lu 1 Ll 1 Lu",
  "1 Ll 1 Lu 1 Ll 1 Lu 1 Ll 1 Lu 1 Ll 1 Lu 1 Ll 1 Lu 1 Ll 1 Lu 1 Ll 1 Lu 1 Ll 1 Lu 1 Ll",
  "1 Lu 1 Ll 1 Lu 1 Ll 1 Lu 1 Ll 1 Lu 1 Ll 1 Lu 1 Ll 1 Lu 1 Ll 1 Lu 1 Ll 1 Lu 1 Ll 1 Lu",
  "1 Ll 1 Lu 1 Ll 1 Lu 1 Ll 1 Lu 1 Ll 1 Lu 1 Ll 1 Lu 1 Ll 1 Lu 1 Ll 1 Lu 1 Ll 1 Lu 1 Ll",
  "1 Lu 1 Ll 1 Lu 1 Ll 1 Lu 1 Ll 9 Lu 8 Ll 6 Cn 2 Lu 6 Cn 2 Ll 8 Lu 8 Ll 8 Lu 8 Ll 6 Cn",
  "2 Lu 6 Cn 2 Ll 8 Cn 1 Lu 1 Cn 1 Lu 1 Cn 1 Lu 1 Cn 1 Lu 1 Ll 8 Lu 8 Ll e Cn 2 Ll 8 Lt",
  "8 Ll 8 Lt 8 Ll 8 Lt 8 Ll 5 Cn 1 Ll 2 Lu 4 Lt 1 Sk 1 Ll 1 Sk 3 Ll 3 Cn 1 Ll 2 Lu 4 Lt",
  "1 Sk 3 Ll 4 Cn 2 Ll 2 Lu 4 Cn 1 Sk 3 Ll 8 Lu 5 Sk 3 Cn 2 Ll 3 Cn 1 Ll 2 Lu 4 Lt 1 Sk",
  "2 Cn 1 Zs b Cf 5 Pd 6 Po 2 Pi 1 Pf 1 Ps 1 Pi 2 Pf 1 Ps 1 Pi 1 Po 8 Zl 1 Zp 1 Cf 5 Zs",
  "1 Po 9 Pi 1 Pf 1 Po 4 Pc 2 Po 3 Sm 1 Ps 1 Pe 1 Po b Sm 1 Po 1 Pc 1 Po a Zs 1 Cf 5 Cn",
  "1 Cf a No 1 Lm 1 Cn 2 No 6 Sm 3 Ps 1 Pe 1 Lm 1 No a Sm 3 Ps 1 Pe 1 Cn 1 Lm d Cn 3 Sc",
  "x Cn f Mn d Me 4 Mn 1 Me 3 Mn c Cn f So 2 Lu 1 So 4 Lu 1 So 2 Ll 1 Lu 3 Ll 2 Lu 3 Ll",
  "1 So 1 Lu 1 So 2 Sm 1 Lu 5 So 6 Lu 1 So 1 Lu 1 So 1 Lu 1 So 1 Lu 4 So 1 Ll 1 Lu 4 Ll",
  "1 Lo 4 Ll 1 So 2 Ll 2 Lu 2 Sm 5 Lu 1 Ll 4 So 1 Sm 1 So 2 Ll 1 So 1 No g Nl z Lu 1 Ll",
  "1 Nl 4 No 1 So 2 Cn 4 Sm 5 So 5 Sm 2 So 4 Sm 1 So 2 Sm 1 So 2 Sm 1 So 7 Sm 1 So v Sm",
  "2 So 2 Sm 1 So 1 Sm 1 So v Sm 7g So 8 Ps 1 Pe 1 Ps 1 Pe 1 So k Sm 2 So 7 Ps 1 Pe 1 So",
  "29 Sm 1 So u Sm p So 14 Sm 6 So 1x Cn p So b Cn l No 1o So 26 No m So 53 Sm 1 So 9 Sm",
  "1 So 1i Sm 8 So 33 Sm 1 So 6w Ps 1 Pe 1 Ps 1 Pe 1 Ps 1 Pe 1 Ps 1 Pe 1 Ps 1 Pe 1 Ps 1 Pe",
  "1 Ps 1 Pe 1 No u So 18 Sm 5 Ps 1 Pe 1 Sm v Ps 1 Pe 1 Ps 1 Pe 1 Ps 1 Pe 1 Ps 1 Pe 1 Ps",
  "1 Pe 1 Sm g So 74 Sm 3n Ps 1 Pe 1 Ps 1 Pe 1 Ps 1 Pe 1 Ps 1 Pe 1 Ps 1 Pe 1 Ps 1 Pe 1 Ps",
  "1 Pe 1 Ps 1 Pe 1 Ps 1 Pe 1 Ps 1 Pe 1 Ps 1 Pe 1 Sm 1r Ps 1 Pe 1 Ps 1 Pe 1 Sm w Ps 1 Pe",
  "1 Sm 76 So 1c Sm l So 2 Sm 6 So 13 Cn 2 So w Cn 1 So 2x Lu 1c Ll 1c Lu 1 Ll 1 Lu 3 Ll",
  "2 Lu 1 Ll 1 Lu 1 Ll 1 Lu 1 Ll 1 Lu 4 Ll 1 Lu 1 Ll 2 Lu 1 Ll 6 Lm 2 Lu 3 Ll 1 Lu 1 Ll",
  "1 Lu 1 Ll 1 Lu 1 Ll 1 Lu 1 Ll 1 Lu 1 Ll 1 Lu 1 Ll 1 Lu 1 Ll 1 Lu 1 Ll 1 Lu 1 Ll 1 Lu",
  "1 Ll 1 Lu 1 Ll 1 Lu 1 Ll 1 Lu 1 Ll 1 Lu 1 Ll 1 Lu 1 Ll 1 Lu 1 Ll 1 Lu 1 Ll 1 Lu 1 Ll",
  "1 Lu 1 Ll 1 Lu 1 Ll 1 Lu 1 Ll 1 Lu 1 Ll 1 Lu 1 Ll 1 Lu 1 Ll 1 Lu 1 Ll 1 Lu 1 Ll 1 Lu",
  "1 Ll 1 Lu 1 Ll 1 Lu 1 Ll 1 Lu 1 Ll 1 Lu 1 Ll 1 Lu 1 Ll 1 Lu 1 Ll 1 Lu 1 Ll 1 Lu 1 Ll",
  "1 Lu 1 Ll 1 Lu 1 Ll 1 Lu 1 Ll 1 Lu 1 Ll 1 Lu 1 Ll 1 Lu 1 Ll 1 Lu 1 Ll 1 Lu 1 Ll 1 Lu",
  "1 Ll 1 Lu 1 Ll 1 Lu 1 Ll 1 Lu 1 Ll 1 Lu 1 Ll 1 Lu 1 Ll 2 So 6 Lu 1 Ll 1 Lu 1 Ll 1 Mn",
  "3 Lu 1 Ll 1 Cn 5 Po 4 No 1 Po 2 Ll 12 Cn 1 Ll 1 Cn 5 Ll 1 Cn 2 Lo 1k Cn 7 Lm 1 Po 1 Cn",
  "e Mn 1 Lo n Cn 9 Lo 7 Cn 1 Lo 7 Cn 1 Lo 7 Cn 1 Lo 7 Cn 1 Lo 7 Cn 1 Lo 7 Cn 1 Lo 7 Cn",
  "1 Lo 7 Cn 1 Mn w Po 2 Pi 1 Pf 1 Pi 1 Pf 1 Po 3 Pi 1 Pf 1 Po 1 Pi 1 Pf 1 Po 9 Pd 1 Po",
  "2 Pd 1 Po 1 Pi 1 Pf 1 Po 2 Pi 1 Pf 1 Ps 1 Pe 1 Ps 1 Pe 1 Ps 1 Pe 1 Ps 1 Pe 1 Po 5 Lm",
  "1 Po a Pd 2 Po 4 Pd 1 Po 1 Ps 1 Po d So 2 Po 3 Ps 1 Pe 1 Ps 1 Pe 1 Ps 1 Pe 1 Ps 1 Pe",
  "1 Pd 1 Cn y So q Cn 1 So 2h Cn c So 5y Cn q So c Cn 4 Zs 1 Po 3 So 1 Lm 1 Lo 1 Nl 1 Ps",
  "1 Pe 1 Ps 1 Pe 1 Ps 1 Pe 1 Ps 1 Pe 1 Ps 1 Pe 1 So 2 Ps 1 Pe 1 Ps 1 Pe 1 Ps 1 Pe 1 Ps",
  "1 Pe 1 Pd 1 Ps 1 Pe 2 So 1 Nl 9 Mn 4 Mc 2 Pd 1 Lm 5 So 2 Nl 3 Lm 1 Lo 1 Po 1 So 2 Cn",
  "1 Lo 2e Cn 2 Mn 2 Sk 2 Lm 2 Lo 1 Pd 1 Lo 2i Po 1 Lm 3 Lo 1 Cn 5 Lo 17 Cn 1 Lo 2m Cn 1 So",
  "2 No 4 So a Lo w So 10 Cn c Lo g So v Cn 1 No a So u No 8 So 1 No f So w No a So 13 No",
  "f So 8w Lo 534 So 1s Lo g7p Lm 1 Lo vr Cn 3 So 1j Cn 9 Lo 14 Lm 6 Po 2 Lo 7g Lm 1 Po",
  "3 Lo g Nd a Lo 2 Cn k Lu 1 Ll 1 Lu 1 Ll 1 Lu 1 Ll 1 Lu 1 Ll 1 Lu 1 Ll 1 Lu 1 Ll 1 Lu",
  "1 Ll 1 Lu 1 Ll 1 Lu 1 Ll 1 Lu 1 Ll 1 Lu 1 Ll 1 Lu 1 Ll 1 Lu 1 Ll 1 Lu 1 Ll 1 Lu 1 Ll",
  "1 Lu 1 Ll 1 Lu 1 Ll 1 Lu 1 Ll 1 Lu 1 Ll 1 Lu 1 Ll 1 Lu 1 Ll 1 Lu 1 Ll 1 Lu 1 Ll 1 Lo",
  "1 Mn 1 Me 3 Po 1 Mn a Po 1 Lm 1 Lu 1 Ll 1 Lu 1 Ll 1 Lu 1 Ll 1 Lu 1 Ll 1 Lu 1 Ll 1 Lu",
  "1 Ll 1 Lu 1 Ll 1 Lu 1 Ll 1 Lu 1 Ll 1 Lu 1 Ll 1 Lu 1 Ll 1 Lu 1 Ll 1 Lu 1 Ll 1 Lu 1 Ll",
  "1 Lm 2 Mn 2 Lo 1y Nl a Mn 2 Po 6 Cn 8 Sk n Lm 9 Sk 2 Lu 1 Ll 1 Lu 1 Ll 1 Lu 1 Ll 1 Lu",
  "1 Ll 1 Lu 1 Ll 1 Lu 1 Ll 1 Lu 1 Ll 3 Lu 1 Ll 1 Lu 1 Ll 1 Lu 1 Ll 1 Lu 1 Ll 1 Lu 1 Ll",
  "1 Lu 1 Ll 1 Lu 1 Ll 1 Lu 1 Ll 1 Lu 1 Ll 1 Lu 1 Ll 1 Lu 1 Ll 1 Lu 1 Ll 1 Lu 1 Ll 1 Lu",
  "1 Ll 1 Lu 1 Ll 1 Lu 1 Ll 1 Lu 1 Ll 1 Lu 1 Ll 1 Lu 1 Ll 1 Lu 1 Ll 1 Lu 1 Ll 1 Lu 1 Ll",
  "1 Lu 1 Ll 1 Lu 1 Ll 1 Lu 1 Ll 1 Lu 1 Ll 1 Lu 1 Ll 1 Lu 1 Ll 1 Lu 1 Ll 1 Lu 1 Ll 1 Lu",
  "1 Ll 1 Lm 1 Ll 8 Lu 1 Ll 1 Lu 1 Ll 1 Lu 2 Ll 1 Lu 1 Ll 1 Lu 1 Ll 1 Lu 1 Ll 1 Lu 1 Ll",
  "1 Lm 1 Sk 2 Lu 1 Ll 1 Lu 1 Ll 1 Lo 1 Lu 1 Ll 1 Lu 1 Ll 3 Lu 1 Ll 1 Lu 1 Ll 1 Lu 1 Ll",
  "1 Lu 1 Ll 1 Lu 1 Ll 1 Lu 1 Ll 1 Lu 1 Ll 1 Lu 1 Ll 1 Lu 1 Ll 1 Lu 1 Ll 1 Lu 5 Ll 1 Lu",
  "5 Ll 1 Lu 1 Ll 1 Lu 1 Ll 1 Lu 1 Ll 1 Lu 1 Ll 1 Lu 1 Ll 1 Lu 1 Ll 1 Lu 1 Ll 1 Lu 4 Ll",
  "1 Lu 1 Ll 1 Cn 5 Lu 1 Ll 1 Cn 1 Ll 1 Cn 1 Ll 1 Lu 1 Ll 1 Lu 1 Ll 1 Cn o Lm 3 Lu 1 Ll",
  "1 Lo 1 Lm 2 Ll 1 Lo 7 Mn 1 Lo 3 Mn 1 Lo 4 Mn 1 Lo n Mc 2 Mn 2 Mc 1 So 4 Mn 1 Cn 3 No",
  "6 So 2 Sc 1 So 1 Cn 6 Lo 1g Po 4 Cn 8 Mc 2 Lo 1e Mc g Mn 2 Cn 8 Po 2 Nd a Cn 6 Mn i Lo",
  "6 Po 3 Lo 1 Po 1 Lo 2 Mn 1 Nd a Lo s Mn 8 Po 2 Lo n Mn b Mc 2 Cn b Po 1 Lo t Cn 3 Mn",
  "3 Mc 1 Lo 1b Mn 1 Mc 2 Mn 4 Mc 2 Mn 2 Mc 3 Po d Cn 1 Lm 1 Nd a Cn 4 Po 2 Lo 5 Mn 1 Lm",
  "1 Lo 9 Nd a Lo 5 Cn 1 Lo 15 Mn 6 Mc 2 Mn 2 Mc 2 Mn 2 Cn 9 Lo 3 Mn 1 Lo 8 Mn 1 Mc 1 Cn",
  "2 Nd a Cn 2 Po 4 Lo g Lm 1 Lo 6 So 3 Lo 1 Mc 1 Mn 1 Mc 1 Lo 1e Mn 1 Lo 1 Mn 3 Lo 2 Mn",
  "2 Lo 5 Mn 2 Lo 1 Mn 1 Lo 1 Cn o Lo 2 Lm 1 Po 2 Lo b Mc 1 Mn 2 Mc 2 Po 2 Lo 1 Lm 2 Mc",
  "1 Mn 1 Cn a Lo 6 Cn 2 Lo 6 Cn 2 Lo 6 Cn 9 Lo 7 Cn 1 Lo 7 Cn 1 Ll 17 Sk 1 Lm 4 Ll 9 Lm",
  "1 Sk 2 Cn 4 Ll 28 Lo z Mc 2 Mn 1 Mc 2 Mn 1 Mc 2 Po 1 Mc 1 Mn 1 Cn 2 Nd a Cn 6 Lo 8mc Cn",
  "c Lo n Cn 4 Lo 1d Cn 4 Cs 1kw Co 4xs Lo a6 Cn 2 Lo 2y Cn 12 Ll 7 Cn c Ll 5 Cn 5 Lo 1 Mn",
  "1 Lo a Sm 1 Lo d Cn 1 Lo 5 Cn 1 Lo 1 Cn 1 Lo 2 Cn 1 Lo 2 Cn 1 Lo 30 Sk h Cn g Lo a3 Pe",
  "1 Ps 1 So g Lo 1s Cn 2 Lo 1i Cn 7 So 1 Cn w Lo c Sc 1 So 3 Mn g Po 7 Ps 1 Pe 1 Po 1 Cn",
  "6 Mn g Po 1 Pd 2 Pc 2 Ps 1 Pe 1 Ps 1 Pe 1 Ps 1 Pe 1 Ps 1 Pe 1 Ps 1 Pe 1 Ps 1 Pe 1 Ps",
  "1 Pe 1 Ps 1 Pe 1 Po 2 Ps 1 Pe 1 Po 4 Pc 3 Po 3 Cn 1 Po 4 Pd 1 Ps 1 Pe 1 Ps 1 Pe 1 Ps",
  "1 Pe 1 Po 3 Sm 1 Pd 1 Sm 3 Cn 1 Po 1 Sc 1 Po 2 Cn 4 Lo 5 Cn 1 Lo 3r Cn 2 Cf 1 Cn 1 Po",
  "3 Sc 1 Po 3 Ps 1 Pe 1 Po 1 Sm 1 Po 1 Pd 1 Po 2 Nd a Po 2 Sm 3 Po 2 Lu q Ps 1 Po 1 Pe",
  "1 Sk 1 Pc 1 Sk 1 Ll q Ps 1 Sm 1 Pe 1 Sm 1 Ps 1 Pe 1 Po 1 Ps 1 Pe 1 Po 2 Lo a Lm 1 Lo",
  "19 Lm 2 Lo v Cn 3 Lo 6 Cn 2 Lo 6 Cn 2 Lo 6 Cn 2 Lo 3 Cn 3 Sc 2 Sm 1 Sk 1 So 1 Sc 2 Cn",
  "1 So 1 Sm 4 So 2 Cn a Cf 3 So 2 Cn 2 Lo c Cn 1 Lo q Cn 1 Lo j Cn 1 Lo 2 Cn 1 Lo f Cn",
  "2 Lo e Cn y Lo 3f Cn 5 Po 3 Cn 4 No 19 Cn 3 So 9 Nl 1h No 4 So h No 2 So 3 Cn 1 So d Cn",
  "3 So 1 Cn 1b So 19 Mn 1 Cn 3m Lo t Cn 3 Lo 1d Cn f Mn 1 No r Cn 4 Lo w No 4 Cn 9 Lo k Nl",
  "1 Lo 8 Nl 1 Cn 5 Lo 12 Mn 5 Cn 5 Lo u Cn 1 Po 1 Lo 10 Cn 4 Lo 8 Po 1 Nl 5 Cn 16 Lu 14 Ll",
  "14 Lo 26 Cn 2 Nd a Cn 6 Lu 10 Cn 4 Ll 10 Cn 4 Lo 14 Cn 8 Lo 1g Cn b Po 1 Lu b Cn 1 Lu",
  "f Cn 1 Lu 7 Cn 1 Lu 2 Cn 1 Ll b Cn 1 Ll f Cn 1 Ll 7 Cn 1 Ll 2 Cn 1v Lo 8n Cn 9 Lo m Cn",
  "a Lo 8 Cn o Lm 6 Cn 1 Lm 16 Cn 1 Lm 9 Cn 1x Lo 6 Cn 2 Lo 1 Cn 1 Lo 18 Cn 1 Lo 2 Cn 3 Lo",
  "1 Cn 2 Lo n Cn 1 Po 1 No 8 Lo n So 2 No 7 Lo v Cn 8 No 9 Cn 1c Lo j Cn 1 Lo 2 Cn 5 No",
  "5 Lo m No 6 Cn 3 Po 1 Lo q Cn 5 Po 1 Cn 1s Lo 1k Cn 4 No 2 Lo 2 No g Cn 2 No 1a Lo 1 Mn",
  "3 Cn 1 Mn 2 Cn 5 Mn 4 Lo 4 Cn 1 Lo 3 Cn 1 Lo t Cn 2 Mn 3 Cn 4 Mn 1 No 9 Cn 7 Po 9 Cn",
  "7 Lo t No 2 Po 1 Lo t No 3 Cn w Lo 8 So 1 Lo s Mn 2 Cn 4 No 5 Po 7 Cn 9 Lo 1i Cn 3 Po",
  "7 Lo m Cn 2 No 8 Lo j Cn 5 No 8 Lo i Cn 7 Po 4 Cn c No 7 Cn 28 Lo 21 Cn 1j Lu 1f Cn d Ll",
  "1f Cn 7 No 6 Lo 10 Mn 4 Cn 8 Nd a Cn 86 No v Cn 1 Lo 16 Cn 1 Mn 2 Pd 1 Cn 2 Lo 2 Cn",
  "23 Mn 3 Lo t No a Lo 1 Cn 8 Lo m Mn b No 4 Po 5 Cn m Lo i Mn 4 Po 4 Cn 12 Lo l No 7 Cn",
  "k Lo n Cn 9 Mc 1 Mn 1 Mc 1 Lo 1h Mn f Po 7 Cn 4 No k Nd a Mn 1 Lo 2 Mn 2 Lo 1 Cn 9 Mn",
  "3 Mc 1 Lo 19 Mc 3 Mn 4 Mc 2 Mn 2 Po 2 Cf 1 Po 4 Mn 1 Cn a Cf 1 Cn 2 Lo p Cn 7 Nd a Cn",
  "6 Mn 3 Lo 10 Mn 5 Mc 1 Mn 8 Cn 1 Nd a Po 4 Lo 1 Mc 2 Lo 1 Cn 8 Lo z Mn 1 Po 2 Lo 1 Cn",
  "9 Mn 2 Mc 1 Lo 1c Mc 3 Mn 9 Mc 2 Lo 4 Po 4 Mn 4 Po 1 Mc 1 Mn 1 Nd a Lo 1 Po 1 Lo 1 Po",
  "3 Cn 1 No k Cn b Lo i Cn 1 Lo p Mc 3 Mn 3 Mc 2 Mn 1 Mc 1 Mn 2 Po 6 Mn 1 Lo 2 Mn 1 Cn",
  "1q Lo 7 Cn 1 Lo 1 Cn 1 Lo 4 Cn 1 Lo f Cn 1 Lo a Po 1 Cn 6 Lo 1b Mn 1 Mc 3 Mn 8 Cn 5 Nd",
  "a Cn 6 Mn 2 Mc 2 Cn 1 Lo 8 Cn 2 Lo 2 Cn 2 Lo m Cn 1 Lo 7 Cn 1 Lo 2 Cn 1 Lo 5 Cn 1 Mn",
  "2 Lo 1 Mc 2 Mn 1 Mc 4 Cn 2 Mc 2 Cn 2 Mc 3 Cn 2 Lo 1 Cn 6 Mc 1 Cn 5 Lo 5 Mc 2 Cn 2 Mn",
  "7 Cn 3 Mn 5 Cn 3v Lo 1h Mc 3 Mn 8 Mc 2 Mn 3 Mc 1 Mn 1 Lo 4 Po 5 Nd a Po 2 Cn 1 Po 1 Mn",
  "1 Lo 3 Cn u Lo 1c Mc 3 Mn 6 Mc 1 Mn 1 Mc 4 Mn 2 Mc 1 Mn 2 Lo 2 Po 1 Lo 1 Cn 8 Nd a Cn",
  "4m Lo 1b Mc 3 Mn 4 Cn 2 Mc 4 Mn 2 Mc 1 Mn 2 Po n Lo 4 Mn 2 Cn y Lo 1c Mc 3 Mn 8 Mc 2 Mn",
  "1 Mc 1 Mn 2 Po 3 Lo 1 Cn b Nd a Cn 6 Po d Cn j Lo 17 Mn 1 Mc 1 Mn 1 Mc 2 Mn 6 Mc 1 Mn",
  "1 Lo 1 Po 1 Cn 6 Nd a Cn 1i Lo r Cn 2 Mn 3 Mc 2 Mn 4 Mc 1 Mn 5 Cn 4 Nd a No 2 Po 3 So",
  "1 Lo 7 Cn 55 Lo 18 Mc 3 Mn 9 Mc 1 Mn 2 Po 1 Cn 2s Lu w Ll w Nd a No 9 Cn c Lo 8 Cn 2 Lo",
  "1 Cn 2 Lo 8 Cn 1 Lo 2 Cn 1 Lo o Mc 6 Cn 1 Mc 2 Cn 2 Mn 2 Mc 1 Mn 1 Lo 1 Mc 1 Lo 1 Mc",
  "1 Mn 1 Po 3 Cn 9 Nd a Cn 1y Lo 8 Cn 2 Lo 13 Mc 3 Mn 4 Cn 2 Mn 2 Mc 4 Mn 1 Lo 1 Po 1 Lo",
  "1 Mc 1 Cn r Lo 1 Mn a Lo 14 Mn 6 Mc 1 Lo 1 Mn 4 Po 8 Mn 1 Cn 8 Lo 1 Mn 6 Mc 2 Mn 3 Lo",
  "1a Mn d Mc 1 Mn 2 Po 3 Lo 1 Po 5 Cn d Lo 21 Cn 7 Po a Cn 6u Lo 9 Cn 1 Lo 11 Mc 1 Mn 7 Cn",
  "1 Mn 6 Mc 1 Mn 1 Lo 1 Po 5 Cn a Nd a No j Cn 3 Po 2 Lo u Cn 2 Mn m Cn 1 Mc 1 Mn 7 Mc",
  "1 Mn 2 Mc 1 Mn 2 Cn 21 Lo 7 Cn 1 Lo 2 Cn 1 Lo 12 Mn 6 Cn 3 Mn 1 Cn 1 Mn 2 Cn 1 Mn 7 Lo",
  "1 Mn 1 Cn 8 Nd a Cn 6 Lo 6 Cn 1 Lo 2 Cn 1 Lo w Mc 5 Cn 1 Mn 2 Cn 1 Mc 2 Mn 1 Mc 1 Mn",
  "1 Lo 1 Cn 7 Nd a Cn 8m Lo j Mn 2 Mc 2 Po 2 Cn 7 Mn 2 Lo 1 Mc 1 Lo d Cn 1 Lo y Mc 2 Mn",
  "5 Cn 3 Mc 2 Mn 1 Mc 1 Mn 1 Po d Nd a Cn 2e Lo 1 Cn f No l So 8 Sc 4 So h Cn d Po 1 Lo",
  "pm Cn 2u Nl 33 Cn 1 Po 5 Cn b Lo 5g Cn 218 Lo 2p Po 2 Cn d Lo ts Cf g Mn 1 Lo 6 Mn f Cn",
  "33e Lo g7 Cn 6nt Lo ft Cn 7 Lo v Cn 1 Nd a Cn 4 Po 2 Lo 27 Cn 1 Nd a Cn 6 Lo u Cn 2 Mn",
  "5 Po 1 Cn a Lo 1c Mn 7 Po 5 So 4 Lm 4 Po 1 So 1 Cn a Nd a Cn 1 No 7 Cn 1 Lo l Cn 5 Lo",
  "j Cn j4 Lu w Ll w No n Po 4 Cn 2t Lo 23 Cn 4 Mn 1 Lo 1 Mc 1j Cn 7 Mn 4 Lm d Cn 1s Lm",
  "2 Po 1 Lm 1 Mn 1 Cn b Mc 2 Cn e Lo 4qg Cn 8 Lo ye Cn 16 Lo 9 Cn 6w7 Lm 4 Cn 1 Lm 7 Cn",
  "1 Lm 2 Cn 1 Lo 83 Cn f Lo 1 Cn t Lo 3 Cn 2 Lo 1 Cn e Lo 4 Cn 8 Lo b0 Cn 1s4 Lo 2z Cn",
  "5 Lo d Cn 3 Lo 9 Cn 7 Lo a Cn 2 So 1 Mn 2 Po 1 Cf 4 Cn 3mk Mn 1a Cn 2 Mn n Cn 9 So 38 Cn",
  "1o So 6u Cn a So 13 Cn 2 So 1o Mc 2 Mn 3 So 3 Mc 6 Cf 8 Mn 8 So 2 Mn 7 So u Mn 4 So",
  "1p Cn l So 1u Mn 3 So 1 Cn 3e No k Cn c No k Cn c So 2f Cn 9 No p Cn 3r Lu q Ll q Lu",
  "q Ll 7 Cn 1 Ll i Lu q Ll q Lu 1 Cn 1 Lu 2 Cn 2 Lu 1 Cn 2 Lu 2 Cn 2 Lu 4 Cn 1 Lu 8 Ll",
  "4 Cn 1 Ll 1 Cn 1 Ll 7 Cn 1 Ll b Lu q Ll q Lu 2 Cn 1 Lu 4 Cn 2 Lu 8 Cn 1 Lu 7 Cn 1 Ll",
  "q Lu 2 Cn 1 Lu 4 Cn 1 Lu 5 Cn 1 Lu 1 Cn 3 Lu 7 Cn 1 Ll q Lu q Ll q Lu q Ll q Lu q Ll",
  "q Lu q Ll q Lu q Ll q Lu q Ll s Cn 2 Lu p Sm 1 Ll p Sm 1 Ll 6 Lu p Sm 1 Ll p Sm 1 Ll",
  "6 Lu p Sm 1 Ll p Sm 1 Ll 6 Lu p Sm 1 Ll p Sm 1 Ll 6 Lu p Sm 1 Ll p Sm 1 Ll 6 Lu 1 Ll",
  "1 Cn 2 Nd 1e So e8 Mn 1j So 4 Mn 1e So 8 Mn 1 So e Mn 1 So 2 Po 5 Cn f Mn 5 Cn 1 Mn f Cn",
  "uo Ll a Lo 1 Ll k Cn 6 Ll 6 Cn 5x Mn 7 Cn 1 Mn h Cn 2 Mn 7 Cn 1 Mn 2 Cn 1 Mn 5 Cn 5 Lm",
  "1q Cn x Mn 1 Cn 34 Lo 19 Cn 3 Mn 7 Lm 7 Cn 2 Nd a Cn 4 Lo 1 So 1 Cn 8w Lo u Mn 1 Cn h Lo",
  "18 Mn 4 Nd a Cn 5 Sc 1 Cn cw Lo r Lm 1 Mn 4 Nd a Cn km Lo 7 Cn 1 Lo 4 Cn 1 Lo 2 Cn 1 Lo",
  "f Cn 1 Lo 5h Cn 2 No 9 Mn 7 Cn 15 Lu y Ll y Mn 7 Lm 1 Cn 4 Nd a Cn 4 Po 2 Cn lt No 1n So",
  "1 No 3 Sc 1 No 4 Cn 24 No 19 So 1 No f Cn 5e Lo 4 Cn 1 Lo r Cn 1 Lo 2 Cn 1 Lo 1 Cn 2 Lo",
  "1 Cn 1 Lo a Cn 1 Lo 4 Cn 1 Lo 1 Cn 1 Lo 1 Cn 6 Lo 1 Cn 4 Lo 1 Cn 1 Lo 1 Cn 1 Lo 1 Cn",
  "1 Lo 3 Cn 1 Lo 2 Cn 1 Lo 1 Cn 2 Lo 1 Cn 1 Lo 1 Cn 1 Lo 1 Cn 1 Lo 1 Cn 1 Lo 1 Cn 1 Lo",
  "2 Cn 1 Lo 1 Cn 2 Lo 4 Cn 1 Lo 7 Cn 1 Lo 4 Cn 1 Lo 4 Cn 1 Lo 1 Cn 1 Lo a Cn 1 Lo h Cn",
  "5 Lo 3 Cn 1 Lo 5 Cn 1 Lo h Cn 1g Sm 2 Cn 7i So 18 Cn 4 So 2s Cn c So f Cn 2 So f Cn 1 So",
  "f Cn 1 So 11 Cn a No d So 4h Cn 1k So t Cn d So 18 Cn 4 So 9 Cn 7 So 2 Cn e So 6 Cn",
  "4a So 6z Sk 5 So k8 Cn 4 So h Cn 3 So d Cn 3 So 3b Cn 4 So 2n Cn 6 So c Cn 4 So 1 Cn",
  "f So c Cn 4 So 1k Cn 8 So a Cn 6 So 14 Cn 8 So u Cn 2 So 2 Cn 26 So 9g Cn c So e Cn 2 So",
  "d Cn 3 So 9 Cn 7 So 1a Cn 1 So 7 Cn 8 So e Cn 4 So 9 Cn 7 So 9 Cn 7 So 43 Cn 1 So 1j Cn",
  "11 Nd a Cn sm Lo wyo Cn w Lo 37e Cn 6 Lo 66 Cn 2 Lo 4g2 Cn e Lo 5rl Cn 2e7 Lo f2 Cn",
  "15u Lo 3t7 Cn 5 Lo 38g Cn f975 Cf 1 Cn u Cf 2o Cn 3k Mn 6o Cn 1e6o Co 1eke Cn 2 Co",
  "1eke Cn 2 Cn"]

/-- The general category of a character. -/
def category (c : Char) : String := (categories.get? c).getD "Cn"

/-- Whether a category is a given one or belongs to a given group of categories. -/
def isInGroup (name k : String) : Bool :=
  if name = "LC" then k = "Lu" || k = "Ll" || k = "Lt" else k.toList.take name.length == name.toList

/-- Whether a character is in a category or in a group of categories. -/
def inCategory (name : String) (c : Char) : Bool := isInGroup name (category c)

/-- The names of the categories and groups: the short one first, then the others. -/
def categoryNames : List (List String) := [
  ["C", "Other"],
  ["Cc", "Control", "Cntrl"],
  ["Cf", "Format"],
  ["Cn", "Unassigned"],
  ["Co", "Private_Use"],
  ["L", "Letter"],
  ["LC", "Cased_Letter"],
  ["Ll", "Lowercase_Letter"],
  ["Lm", "Modifier_Letter"],
  ["Lo", "Other_Letter"],
  ["Lt", "Titlecase_Letter"],
  ["Lu", "Uppercase_Letter"],
  ["M", "Mark", "Combining_Mark"],
  ["Mc", "Spacing_Mark"],
  ["Me", "Enclosing_Mark"],
  ["Mn", "Nonspacing_Mark"],
  ["N", "Number"],
  ["Nd", "Decimal_Number", "Digit"],
  ["Nl", "Letter_Number"],
  ["No", "Other_Number"],
  ["P", "Punctuation", "Punct"],
  ["Pc", "Connector_Punctuation"],
  ["Pd", "Dash_Punctuation"],
  ["Pe", "Close_Punctuation"],
  ["Pf", "Final_Punctuation"],
  ["Pi", "Initial_Punctuation"],
  ["Po", "Other_Punctuation"],
  ["Ps", "Open_Punctuation"],
  ["S", "Symbol"],
  ["Sc", "Currency_Symbol"],
  ["Sk", "Modifier_Symbol"],
  ["Sm", "Math_Symbol"],
  ["So", "Other_Symbol"],
  ["Z", "Separator"],
  ["Zl", "Line_Separator"],
  ["Zp", "Paragraph_Separator"],
  ["Zs", "Space_Separator"]]

/-- The characters that messages show as they are: no controls, unassigned code points or
separators but the space. -/
def isPrintable (c : Char) : Bool :=
  c == ' ' || !(inCategory "C" c || inCategory "Z" c)

end DatasetLint.Unicode
