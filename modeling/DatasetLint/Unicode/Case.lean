import DatasetLint.Unicode.CharSet

/-!
# Letter case

Simple case mappings take a character to a character. A run maps its first code point to the
number given, the following ones to the following numbers; zero stands for the identity. Two
characters are the same but for case if their foldings are equal.
-/

namespace DatasetLint.Unicode

/-- The image of a character under a table of runs. -/
private def mapped (m : CharMap Nat) (c : Char) : Char :=
  match m.run? c.toNat with
  | some (start, target) => if target = 0 then c else Char.ofNat (target + (c.toNat - start))
  | none => c

/-- The runs of the simple case folding. -/
def foldings : CharMap Nat := .ofPairs number36 [
  "0 0 1t 2p q 0 2i qk 1 0 a 68 n 0 1 6w 7 0 x 75 1 0 1 77 1 0 1 79 1 0 1 7b 1 0 1 7d 1 0",
  "1 7f 1 0 1 7h 1 0 1 7j 1 0 1 7l 1 0 1 7n 1 0 1 7p 1 0 1 7r 1 0 1 7t 1 0 1 7v 1 0 1 7x",
  "1 0 1 7z 1 0 1 81 1 0 1 83 1 0 1 85 1 0 1 87 1 0 1 89 1 0 1 8b 1 0 1 8d 1 0 1 8f 1 0",
  "3 8j 1 0 1 8l 1 0 1 8n 1 0 2 8q 1 0 1 8s 1 0 1 8u 1 0 1 8w 1 0 1 8y 1 0 1 90 1 0 1 92",
  "1 0 1 94 1 0 2 97 1 0 1 99 1 0 1 9b 1 0 1 9d 1 0 1 9f 1 0 1 9h 1 0 1 9j 1 0 1 9l 1 0",
  "1 9n 1 0 1 9p 1 0 1 9r 1 0 1 9t 1 0 1 9v 1 0 1 9x 1 0 1 9z 1 0 1 a1 1 0 1 a3 1 0 1 a5",
  "1 0 1 a7 1 0 1 a9 1 0 1 ab 1 0 1 ad 1 0 1 af 1 0 1 73 1 ai 1 0 1 ak 1 0 1 am 1 0 1 37",
  "1 0 1 gj 1 ar 1 0 1 at 1 0 1 gk 1 aw 1 0 1 gm 2 b0 1 0 2 d9 1 gp 1 gr 1 b6 1 0 1 gw 1 gz",
  "1 0 1 h5 1 h4 1 bd 1 0 3 hb 1 he 1 0 1 hh 1 bl 1 0 1 bn 1 0 1 bp 1 0 1 hs 1 bs 1 0 1 hv",
  "1 0 2 bx 1 0 1 i0 1 c0 1 0 1 i2 2 c4 1 0 1 c6 1 0 1 ia 1 c9 1 0 3 cd 1 0 7 cm 1 cm 1 0",
  "1 cp 1 cp 1 0 1 cs 1 cs 1 0 1 cu 1 0 1 cw 1 0 1 cy 1 0 1 d0 1 0 1 d2 1 0 1 d4 1 0 1 d6",
  "1 0 1 d8 1 0 2 db 1 0 1 dd 1 0 1 df 1 0 1 dh 1 0 1 dj 1 0 1 dl 1 0 1 dn 1 0 1 dp 1 0",
  "1 dr 1 0 2 dv 1 dv 1 0 1 dx 1 0 1 b9 1 cf 1 e1 1 0 1 e3 1 0 1 e5 1 0 1 e7 1 0 1 e9 1 0",
  "1 eb 1 0 1 ed 1 0 1 ef 1 0 1 eh 1 0 1 ej 1 0 1 el 1 0 1 en 1 0 1 ep 1 0 1 er 1 0 1 et",
  "1 0 1 ev 1 0 1 ex 1 0 1 ez 1 0 1 f1 1 0 1 f3 1 0 1 bi 1 0 1 f7 1 0 1 f9 1 0 1 fb 1 0",
  "1 fd 1 0 1 ff 1 0 1 fh 1 0 1 fj 1 0 1 fl 1 0 1 fn 1 0 7 8rp 1 fw 1 0 1 be 1 8rq 1 0 2 g2",
  "1 0 1 ao 1 i1 1 i4 1 g7 1 0 1 g9 1 0 1 gb 1 0 1 gd 1 0 1 gf 1 0 6u qh 1 0 16 oh 1 0 1 oj",
  "1 0 3 on 1 0 8 s3 1 0 6 q4 1 0 1 q5 3 0 1 r0 1 0 1 r1 2 0 1 q9 h 0 1 qr 9 0 m qr 1 0",
  "c rb 1 qa 1 qg 1 0 3 qu 1 qo 1 0 1 rd 1 0 1 rf 1 0 1 rh 1 0 1 rj 1 0 1 rl 1 0 1 rn 1 0",
  "1 rp 1 0 1 rr 1 0 1 rt 1 0 1 rv 1 0 1 rx 1 0 1 rz 1 0 1 qi 1 qp 1 0 2 qg 1 qd 1 0 1 s8",
  "1 0 1 s2 1 sb 1 0 2 or 3 uo g ts w 0 1c v5 1 0 1 v7 1 0 1 v9 1 0 1 vb 1 0 1 vd 1 0 1 vf",
  "1 0 1 vh 1 0 1 vj 1 0 1 vl 1 0 1 vn 1 0 1 vp 1 0 1 vr 1 0 1 vt 1 0 1 vv 1 0 1 vx 1 0",
  "1 vz 1 0 1 w1 1 0 9 wb 1 0 1 wd 1 0 1 wf 1 0 1 wh 1 0 1 wj 1 0 1 wl 1 0 1 wn 1 0 1 wp",
  "1 0 1 wr 1 0 1 wt 1 0 1 wv 1 0 1 wx 1 0 1 wz 1 0 1 x1 1 0 1 x3 1 0 1 x5 1 0 1 x7 1 0",
  "1 x9 1 0 1 xb 1 0 1 xd 1 0 1 xf 1 0 1 xh 1 0 1 xj 1 0 1 xl 1 0 1 xn 1 0 1 xp 1 0 1 xr",
  "1 0 1 y7 1 xu 1 0 1 xw 1 0 1 xy 1 0 1 y0 1 0 1 y2 1 0 1 y4 1 0 1 y6 1 0 2 y9 1 0 1 yb",
  "1 0 1 yd 1 0 1 yf 1 0 1 yh 1 0 1 yj 1 0 1 yl 1 0 1 yn 1 0 1 yp 1 0 1 yr 1 0 1 yt 1 0",
  "1 yv 1 0 1 yx 1 0 1 yz 1 0 1 z1 1 0 1 z3 1 0 1 z5 1 0 1 z7 1 0 1 z9 1 0 1 zb 1 0 1 zd",
  "1 0 1 zf 1 0 1 zh 1 0 1 zj 1 0 1 zl 1 0 1 zn 1 0 1 zp 1 0 1 zr 1 0 1 zt 1 0 1 zv 1 0",
  "1 zx 1 0 1 zz 1 0 1 101 1 0 1 103 1 0 1 105 1 0 1 107 1 0 1 109 1 0 1 10b 1 0 1 10d 1 0",
  "1 10f 1 0 1 10h 1 0 1 10j 1 0 1 10l 1 0 1 10n 1 0 1 10p 1 0 1 10r 1 0 1 10t 1 0 1 10v",
  "1 0 2 129 12 0 289 8w0 12 0 1 8x3 1 0 5 8x9 1 0 mi 3xs 6 0 1oi tu 1 tw 1 u6 1 u9 2 ua",
  "1 ui 1 v7 1 wuj 1 0 7 3bk 17 0 2 3ct 3 0 8w 5xd 1 0 1 5xf 1 0 1 5xh 1 0 1 5xj 1 0 1 5xl",
  "1 0 1 5xn 1 0 1 5xp 1 0 1 5xr 1 0 1 5xt 1 0 1 5xv 1 0 1 5xx 1 0 1 5xz 1 0 1 5y1 1 0",
  "1 5y3 1 0 1 5y5 1 0 1 5y7 1 0 1 5y9 1 0 1 5yb 1 0 1 5yd 1 0 1 5yf 1 0 1 5yh 1 0 1 5yj",
  "1 0 1 5yl 1 0 1 5yn 1 0 1 5yp 1 0 1 5yr 1 0 1 5yt 1 0 1 5yv 1 0 1 5yx 1 0 1 5yz 1 0",
  "1 5z1 1 0 1 5z3 1 0 1 5z5 1 0 1 5z7 1 0 1 5z9 1 0 1 5zb 1 0 1 5zd 1 0 1 5zf 1 0 1 5zh",
  "1 0 1 5zj 1 0 1 5zl 1 0 1 5zn 1 0 1 5zp 1 0 1 5zr 1 0 1 5zt 1 0 1 5zv 1 0 1 5zx 1 0",
  "1 5zz 1 0 1 601 1 0 1 603 1 0 1 605 1 0 1 607 1 0 1 609 1 0 1 60b 1 0 1 60d 1 0 1 60f",
  "1 0 1 60h 1 0 1 60j 1 0 1 60l 1 0 1 60n 1 0 1 60p 1 0 1 60r 1 0 1 60t 1 0 1 60v 1 0",
  "1 60x 1 0 1 60z 1 0 1 611 1 0 1 613 1 0 1 615 1 0 1 617 1 0 1 619 1 0 1 61b 1 0 1 61d",
  "1 0 1 61f 1 0 1 61h 1 0 6 601 1 0 2 67 1 0 1 61t 1 0 1 61v 1 0 1 61x 1 0 1 61z 1 0 1 621",
  "1 0 1 623 1 0 1 625 1 0 1 627 1 0 1 629 1 0 1 62b 1 0 1 62d 1 0 1 62f 1 0 1 62h 1 0",
  "1 62j 1 0 1 62l 1 0 1 62n 1 0 1 62p 1 0 1 62r 1 0 1 62t 1 0 1 62v 1 0 1 62x 1 0 1 62z",
  "1 0 1 631 1 0 1 633 1 0 1 635 1 0 1 637 1 0 1 639 1 0 1 63b 1 0 1 63d 1 0 1 63f 1 0",
  "1 63h 1 0 1 63j 1 0 1 63l 1 0 1 63n 1 0 1 63p 1 0 1 63r 1 0 1 63t 1 0 1 63v 1 0 1 63x",
  "1 0 1 63z 1 0 1 641 1 0 1 643 1 0 1 645 1 0 1 647 1 0 1 649 1 0 1 64b 1 0 1 64d 1 0",
  "1 64f 1 0 9 64g 8 0 8 64w 6 0 a 65c 8 0 8 65s 8 0 8 668 6 0 b 66p 1 0 1 66r 1 0 1 66t",
  "1 0 1 66v 1 0 8 674 8 0 o 680 8 0 8 68g 8 0 8 68w 8 0 8 69c 2 67k 2 69f 1 0 1 qh 1 0",
  "9 67m 4 69v 1 0 b 6a8 2 67q 2 0 c 6ao 2 67u 2 6at 1 0 b 67s 2 67w 2 6b7 1 0 89 qx 1 0",
  "3 2z 1 6d 1 0 6 6ku 1 0 19 6ls g 0 j 6mc 1 0 mq 79s q 0 1f4 8q8 1c 0 1c 8rl 1 0 1 h7",
  "1 5tp 1 hp 1 0 2 8rs 1 0 1 8ru 1 0 1 8rw 1 0 1 gh 1 hd 1 gg 1 gi 1 0 1 8s3 1 0 2 8s6 1 0",
  "8 fz 2 8sh 1 0 1 8sj 1 0 1 8sl 1 0 1 8sn 1 0 1 8sp 1 0 1 8sr 1 0 1 8st 1 0 1 8sv 1 0",
  "1 8sx 1 0 1 8sz 1 0 1 8t1 1 0 1 8t3 1 0 1 8t5 1 0 1 8t7 1 0 1 8t9 1 0 1 8tb 1 0 1 8td",
  "1 0 1 8tf 1 0 1 8th 1 0 1 8tj 1 0 1 8tl 1 0 1 8tn 1 0 1 8tp 1 0 1 8tr 1 0 1 8tt 1 0",
  "1 8tv 1 0 1 8tx 1 0 1 8tz 1 0 1 8u1 1 0 1 8u3 1 0 1 8u5 1 0 1 8u7 1 0 1 8u9 1 0 1 8ub",
  "1 0 1 8ud 1 0 1 8uf 1 0 1 8uh 1 0 1 8uj 1 0 1 8ul 1 0 1 8un 1 0 1 8up 1 0 1 8ur 1 0",
  "1 8ut 1 0 1 8uv 1 0 1 8ux 1 0 1 8uz 1 0 1 8v1 1 0 1 8v3 1 0 1 8v5 1 0 1 8v7 1 0 8 8vg",
  "1 0 1 8vi 1 0 4 8vn 1 0 nyl wu9 1 0 1 wub 1 0 1 wud 1 0 1 wuf 1 0 1 wuh 1 0 1 wuj 1 0",
  "1 wul 1 0 1 wun 1 0 1 wup 1 0 1 wur 1 0 1 wut 1 0 1 wuv 1 0 1 wux 1 0 1 wuz 1 0 1 wv1",
  "1 0 1 wv3 1 0 1 wv5 1 0 1 wv7 1 0 1 wv9 1 0 1 wvb 1 0 1 wvd 1 0 1 wvf 1 0 1 wvh 1 0",
  "j ww1 1 0 1 ww3 1 0 1 ww5 1 0 1 ww7 1 0 1 ww9 1 0 1 wwb 1 0 1 wwd 1 0 1 wwf 1 0 1 wwh",
  "1 0 1 wwj 1 0 1 wwl 1 0 1 wwn 1 0 1 wwp 1 0 1 wwr 1 0 3r x0j 1 0 1 x0l 1 0 1 x0n 1 0",
  "1 x0p 1 0 1 x0r 1 0 1 x0t 1 0 1 x0v 1 0 3 x0z 1 0 1 x11 1 0 1 x13 1 0 1 x15 1 0 1 x17",
  "1 0 1 x19 1 0 1 x1b 1 0 1 x1d 1 0 1 x1f 1 0 1 x1h 1 0 1 x1j 1 0 1 x1l 1 0 1 x1n 1 0",
  "1 x1p 1 0 1 x1r 1 0 1 x1t 1 0 1 x1v 1 0 1 x1x 1 0 1 x1z 1 0 1 x21 1 0 1 x23 1 0 1 x25",
  "1 0 1 x27 1 0 1 x29 1 0 1 x2b 1 0 1 x2d 1 0 1 x2f 1 0 1 x2h 1 0 1 x2j 1 0 1 x2l 1 0",
  "1 x2n 1 0 a x2y 1 0 1 x30 1 0 1 5tl 1 x33 1 0 1 x35 1 0 1 x37 1 0 1 x39 1 0 1 x3b 1 0",
  "4 x3g 1 0 1 h1 1 0 2 x3l 1 0 1 x3n 1 0 3 x3r 1 0 1 x3t 1 0 1 x3v 1 0 1 x3x 1 0 1 x3z 1 0",
  "1 x41 1 0 1 x43 1 0 1 x45 1 0 1 x47 1 0 1 x49 1 0 1 h2 1 gs 1 gx 1 h8 1 h6 1 0 1 im 1 hz",
  "1 il 1 xub 1 x4l 1 0 1 x4n 1 0 1 x4p 1 0 1 x4r 1 0 1 x4t 1 0 1 x4v 1 0 1 x4x 1 0 1 x4z",
  "1 0 1 x3o 1 hu 1 5u6 1 x54 1 0 1 x56 1 0 6 x5d 1 0 5 x5j 1 0 1 x5l 1 0 s x6e 1 0 oq 3vk",
  "28 0 ggx 1ef5 q 0 xx 1fe0 14 0 3s 1fiw 10 0 4c 1fo7 b 0 1 1foj f 0 1 1foz 7 0 1 1fp7 2 0",
  "1d6 1h34 1f 0 2ct 1jgg w 0 gw0 20dc w 0 o80 2oma y 0 l71a 0"]

/-- The runs of the simple mapping to small letters. -/
def lowerings : CharMap Nat := .ofPairs number36 [
  "0 0 1t 2p q 0 2t 68 n 0 1 6w 7 0 x 75 1 0 1 77 1 0 1 79 1 0 1 7b 1 0 1 7d 1 0 1 7f 1 0",
  "1 7h 1 0 1 7j 1 0 1 7l 1 0 1 7n 1 0 1 7p 1 0 1 7r 1 0 1 7t 1 0 1 7v 1 0 1 7x 1 0 1 7z",
  "1 0 1 81 1 0 1 83 1 0 1 85 1 0 1 87 1 0 1 89 1 0 1 8b 1 0 1 8d 1 0 1 8f 1 0 1 2x 1 0",
  "1 8j 1 0 1 8l 1 0 1 8n 1 0 2 8q 1 0 1 8s 1 0 1 8u 1 0 1 8w 1 0 1 8y 1 0 1 90 1 0 1 92",
  "1 0 1 94 1 0 2 97 1 0 1 99 1 0 1 9b 1 0 1 9d 1 0 1 9f 1 0 1 9h 1 0 1 9j 1 0 1 9l 1 0",
  "1 9n 1 0 1 9p 1 0 1 9r 1 0 1 9t 1 0 1 9v 1 0 1 9x 1 0 1 9z 1 0 1 a1 1 0 1 a3 1 0 1 a5",
  "1 0 1 a7 1 0 1 a9 1 0 1 ab 1 0 1 ad 1 0 1 af 1 0 1 73 1 ai 1 0 1 ak 1 0 1 am 1 0 3 gj",
  "1 ar 1 0 1 at 1 0 1 gk 1 aw 1 0 1 gm 2 b0 1 0 2 d9 1 gp 1 gr 1 b6 1 0 1 gw 1 gz 1 0 1 h5",
  "1 h4 1 bd 1 0 3 hb 1 he 1 0 1 hh 1 bl 1 0 1 bn 1 0 1 bp 1 0 1 hs 1 bs 1 0 1 hv 1 0 2 bx",
  "1 0 1 i0 1 c0 1 0 1 i2 2 c4 1 0 1 c6 1 0 1 ia 1 c9 1 0 3 cd 1 0 7 cm 1 cm 1 0 1 cp 1 cp",
  "1 0 1 cs 1 cs 1 0 1 cu 1 0 1 cw 1 0 1 cy 1 0 1 d0 1 0 1 d2 1 0 1 d4 1 0 1 d6 1 0 1 d8",
  "1 0 2 db 1 0 1 dd 1 0 1 df 1 0 1 dh 1 0 1 dj 1 0 1 dl 1 0 1 dn 1 0 1 dp 1 0 1 dr 1 0",
  "2 dv 1 dv 1 0 1 dx 1 0 1 b9 1 cf 1 e1 1 0 1 e3 1 0 1 e5 1 0 1 e7 1 0 1 e9 1 0 1 eb 1 0",
  "1 ed 1 0 1 ef 1 0 1 eh 1 0 1 ej 1 0 1 el 1 0 1 en 1 0 1 ep 1 0 1 er 1 0 1 et 1 0 1 ev",
  "1 0 1 ex 1 0 1 ez 1 0 1 f1 1 0 1 f3 1 0 1 bi 1 0 1 f7 1 0 1 f9 1 0 1 fb 1 0 1 fd 1 0",
  "1 ff 1 0 1 fh 1 0 1 fj 1 0 1 fl 1 0 1 fn 1 0 7 8rp 1 fw 1 0 1 be 1 8rq 1 0 2 g2 1 0 1 ao",
  "1 i1 1 i4 1 g7 1 0 1 g9 1 0 1 gb 1 0 1 gd 1 0 1 gf 1 0 81 oh 1 0 1 oj 1 0 3 on 1 0 8 s3",
  "1 0 6 q4 1 0 1 q5 3 0 1 r0 1 0 1 r1 2 0 1 q9 h 0 1 qr 9 0 z rb 1 0 8 rd 1 0 1 rf 1 0",
  "1 rh 1 0 1 rj 1 0 1 rl 1 0 1 rn 1 0 1 rp 1 0 1 rr 1 0 1 rt 1 0 1 rv 1 0 1 rx 1 0 1 rz",
  "1 0 5 qg 1 0 2 s8 1 0 1 s2 1 sb 1 0 2 or 3 uo g ts w 0 1c v5 1 0 1 v7 1 0 1 v9 1 0 1 vb",
  "1 0 1 vd 1 0 1 vf 1 0 1 vh 1 0 1 vj 1 0 1 vl 1 0 1 vn 1 0 1 vp 1 0 1 vr 1 0 1 vt 1 0",
  "1 vv 1 0 1 vx 1 0 1 vz 1 0 1 w1 1 0 9 wb 1 0 1 wd 1 0 1 wf 1 0 1 wh 1 0 1 wj 1 0 1 wl",
  "1 0 1 wn 1 0 1 wp 1 0 1 wr 1 0 1 wt 1 0 1 wv 1 0 1 wx 1 0 1 wz 1 0 1 x1 1 0 1 x3 1 0",
  "1 x5 1 0 1 x7 1 0 1 x9 1 0 1 xb 1 0 1 xd 1 0 1 xf 1 0 1 xh 1 0 1 xj 1 0 1 xl 1 0 1 xn",
  "1 0 1 xp 1 0 1 xr 1 0 1 y7 1 xu 1 0 1 xw 1 0 1 xy 1 0 1 y0 1 0 1 y2 1 0 1 y4 1 0 1 y6",
  "1 0 2 y9 1 0 1 yb 1 0 1 yd 1 0 1 yf 1 0 1 yh 1 0 1 yj 1 0 1 yl 1 0 1 yn 1 0 1 yp 1 0",
  "1 yr 1 0 1 yt 1 0 1 yv 1 0 1 yx 1 0 1 yz 1 0 1 z1 1 0 1 z3 1 0 1 z5 1 0 1 z7 1 0 1 z9",
  "1 0 1 zb 1 0 1 zd 1 0 1 zf 1 0 1 zh 1 0 1 zj 1 0 1 zl 1 0 1 zn 1 0 1 zp 1 0 1 zr 1 0",
  "1 zt 1 0 1 zv 1 0 1 zx 1 0 1 zz 1 0 1 101 1 0 1 103 1 0 1 105 1 0 1 107 1 0 1 109 1 0",
  "1 10b 1 0 1 10d 1 0 1 10f 1 0 1 10h 1 0 1 10j 1 0 1 10l 1 0 1 10n 1 0 1 10p 1 0 1 10r",
  "1 0 1 10t 1 0 1 10v 1 0 2 129 12 0 289 8w0 12 0 1 8x3 1 0 5 8x9 1 0 k2 xv4 28 3y0 6 0",
  "1p6 3bk 17 0 2 3ct 3 0 8w 5xd 1 0 1 5xf 1 0 1 5xh 1 0 1 5xj 1 0 1 5xl 1 0 1 5xn 1 0",
  "1 5xp 1 0 1 5xr 1 0 1 5xt 1 0 1 5xv 1 0 1 5xx 1 0 1 5xz 1 0 1 5y1 1 0 1 5y3 1 0 1 5y5",
  "1 0 1 5y7 1 0 1 5y9 1 0 1 5yb 1 0 1 5yd 1 0 1 5yf 1 0 1 5yh 1 0 1 5yj 1 0 1 5yl 1 0",
  "1 5yn 1 0 1 5yp 1 0 1 5yr 1 0 1 5yt 1 0 1 5yv 1 0 1 5yx 1 0 1 5yz 1 0 1 5z1 1 0 1 5z3",
  "1 0 1 5z5 1 0 1 5z7 1 0 1 5z9 1 0 1 5zb 1 0 1 5zd 1 0 1 5zf 1 0 1 5zh 1 0 1 5zj 1 0",
  "1 5zl 1 0 1 5zn 1 0 1 5zp 1 0 1 5zr 1 0 1 5zt 1 0 1 5zv 1 0 1 5zx 1 0 1 5zz 1 0 1 601",
  "1 0 1 603 1 0 1 605 1 0 1 607 1 0 1 609 1 0 1 60b 1 0 1 60d 1 0 1 60f 1 0 1 60h 1 0",
  "1 60j 1 0 1 60l 1 0 1 60n 1 0 1 60p 1 0 1 60r 1 0 1 60t 1 0 1 60v 1 0 1 60x 1 0 1 60z",
  "1 0 1 611 1 0 1 613 1 0 1 615 1 0 1 617 1 0 1 619 1 0 1 61b 1 0 1 61d 1 0 1 61f 1 0",
  "1 61h 1 0 9 67 1 0 1 61t 1 0 1 61v 1 0 1 61x 1 0 1 61z 1 0 1 621 1 0 1 623 1 0 1 625 1 0",
  "1 627 1 0 1 629 1 0 1 62b 1 0 1 62d 1 0 1 62f 1 0 1 62h 1 0 1 62j 1 0 1 62l 1 0 1 62n",
  "1 0 1 62p 1 0 1 62r 1 0 1 62t 1 0 1 62v 1 0 1 62x 1 0 1 62z 1 0 1 631 1 0 1 633 1 0",
  "1 635 1 0 1 637 1 0 1 639 1 0 1 63b 1 0 1 63d 1 0 1 63f 1 0 1 63h 1 0 1 63j 1 0 1 63l",
  "1 0 1 63n 1 0 1 63p 1 0 1 63r 1 0 1 63t 1 0 1 63v 1 0 1 63x 1 0 1 63z 1 0 1 641 1 0",
  "1 643 1 0 1 645 1 0 1 647 1 0 1 649 1 0 1 64b 1 0 1 64d 1 0 1 64f 1 0 9 64g 8 0 8 64w",
  "6 0 a 65c 8 0 8 65s 8 0 8 668 6 0 b 66p 1 0 1 66r 1 0 1 66t 1 0 1 66v 1 0 8 674 8 0",
  "o 680 8 0 8 68g 8 0 8 68w 8 0 8 69c 2 67k 2 69f 1 0 b 67m 4 69v 1 0 b 6a8 2 67q 2 0",
  "c 6ao 2 67u 2 6at 1 0 b 67s 2 67w 2 6b7 1 0 89 qx 1 0 3 2z 1 6d 1 0 6 6ku 1 0 19 6ls g 0",
  "j 6mc 1 0 mq 79s q 0 1f4 8q8 1c 0 1c 8rl 1 0 1 h7 1 5tp 1 hp 1 0 2 8rs 1 0 1 8ru 1 0",
  "1 8rw 1 0 1 gh 1 hd 1 gg 1 gi 1 0 1 8s3 1 0 2 8s6 1 0 8 fz 2 8sh 1 0 1 8sj 1 0 1 8sl 1 0",
  "1 8sn 1 0 1 8sp 1 0 1 8sr 1 0 1 8st 1 0 1 8sv 1 0 1 8sx 1 0 1 8sz 1 0 1 8t1 1 0 1 8t3",
  "1 0 1 8t5 1 0 1 8t7 1 0 1 8t9 1 0 1 8tb 1 0 1 8td 1 0 1 8tf 1 0 1 8th 1 0 1 8tj 1 0",
  "1 8tl 1 0 1 8tn 1 0 1 8tp 1 0 1 8tr 1 0 1 8tt 1 0 1 8tv 1 0 1 8tx 1 0 1 8tz 1 0 1 8u1",
  "1 0 1 8u3 1 0 1 8u5 1 0 1 8u7 1 0 1 8u9 1 0 1 8ub 1 0 1 8ud 1 0 1 8uf 1 0 1 8uh 1 0",
  "1 8uj 1 0 1 8ul 1 0 1 8un 1 0 1 8up 1 0 1 8ur 1 0 1 8ut 1 0 1 8uv 1 0 1 8ux 1 0 1 8uz",
  "1 0 1 8v1 1 0 1 8v3 1 0 1 8v5 1 0 1 8v7 1 0 8 8vg 1 0 1 8vi 1 0 4 8vn 1 0 nyl wu9 1 0",
  "1 wub 1 0 1 wud 1 0 1 wuf 1 0 1 wuh 1 0 1 wuj 1 0 1 wul 1 0 1 wun 1 0 1 wup 1 0 1 wur",
  "1 0 1 wut 1 0 1 wuv 1 0 1 wux 1 0 1 wuz 1 0 1 wv1 1 0 1 wv3 1 0 1 wv5 1 0 1 wv7 1 0",
  "1 wv9 1 0 1 wvb 1 0 1 wvd 1 0 1 wvf 1 0 1 wvh 1 0 j ww1 1 0 1 ww3 1 0 1 ww5 1 0 1 ww7",
  "1 0 1 ww9 1 0 1 wwb 1 0 1 wwd 1 0 1 wwf 1 0 1 wwh 1 0 1 wwj 1 0 1 wwl 1 0 1 wwn 1 0",
  "1 wwp 1 0 1 wwr 1 0 3r x0j 1 0 1 x0l 1 0 1 x0n 1 0 1 x0p 1 0 1 x0r 1 0 1 x0t 1 0 1 x0v",
  "1 0 3 x0z 1 0 1 x11 1 0 1 x13 1 0 1 x15 1 0 1 x17 1 0 1 x19 1 0 1 x1b 1 0 1 x1d 1 0",
  "1 x1f 1 0 1 x1h 1 0 1 x1j 1 0 1 x1l 1 0 1 x1n 1 0 1 x1p 1 0 1 x1r 1 0 1 x1t 1 0 1 x1v",
  "1 0 1 x1x 1 0 1 x1z 1 0 1 x21 1 0 1 x23 1 0 1 x25 1 0 1 x27 1 0 1 x29 1 0 1 x2b 1 0",
  "1 x2d 1 0 1 x2f 1 0 1 x2h 1 0 1 x2j 1 0 1 x2l 1 0 1 x2n 1 0 a x2y 1 0 1 x30 1 0 1 5tl",
  "1 x33 1 0 1 x35 1 0 1 x37 1 0 1 x39 1 0 1 x3b 1 0 4 x3g 1 0 1 h1 1 0 2 x3l 1 0 1 x3n 1 0",
  "3 x3r 1 0 1 x3t 1 0 1 x3v 1 0 1 x3x 1 0 1 x3z 1 0 1 x41 1 0 1 x43 1 0 1 x45 1 0 1 x47",
  "1 0 1 x49 1 0 1 h2 1 gs 1 gx 1 h8 1 h6 1 0 1 im 1 hz 1 il 1 xub 1 x4l 1 0 1 x4n 1 0",
  "1 x4p 1 0 1 x4r 1 0 1 x4t 1 0 1 x4v 1 0 1 x4x 1 0 1 x4z 1 0 1 x3o 1 hu 1 5u6 1 x54 1 0",
  "1 x56 1 0 6 x5d 1 0 5 x5j 1 0 1 x5l 1 0 s x6e 1 0 h7v 1ef5 q 0 xx 1fe0 14 0 3s 1fiw 10 0",
  "4c 1fo7 b 0 1 1foj f 0 1 1foz 7 0 1 1fp7 2 0 1d6 1h34 1f 0 2ct 1jgg w 0 gw0 20dc w 0",
  "o80 2oma y 0 l71a 0"]

/-- The small form of a character: one character, but two for the dotted capital I. -/
def lower (c : Char) : List Char :=
  if c = '\u0130' then ['i', '\u0307'] else [mapped lowerings c]

/-- The characters that a table of runs takes elsewhere, each with its image. -/
def images (m : CharMap Nat) : List (Char × Char) :=
  ((m.starts.toList.zip (m.starts.toList.drop 1)).zip m.values.toList).flatMap
    fun ((first, next), target) =>
      if target = 0 then []
      else (List.range (next - first)).map fun i => (Char.ofNat (first + i), Char.ofNat (target + i))

/-- The characters that the folding takes elsewhere. -/
def foldedPairs : List (Char × Char) := images foldings

/-- A set with all characters that equal one of its own but for case. -/
def closeUnderCase (s : CharSet) : CharSet :=
  let targets := (foldedPairs.filter fun (a, t) => s.contains a || s.contains t).map (·.2)
  let reached := CharSet.ofList targets
  s.union (.ofList (targets ++ (foldedPairs.filter fun (_, t) => reached.contains t).map (·.1)))

end DatasetLint.Unicode
