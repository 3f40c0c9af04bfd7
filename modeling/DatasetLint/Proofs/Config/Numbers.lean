import DatasetLint.Proofs.Config.Integers

/-!
# Numbers from a document to a floating-point field

Every number of a document is printed, and read again by a floating-point field. Whole numbers and finite floats pass,
and a float comes back bit by bit in its own format. The words of documents for infinity and for what is no number are
none that a field reads, although it has words of its own for both.
-/

namespace DatasetLint

namespace Yaml

open Decimal

namespace Scalar

/-- Integers and floats. -/
def isNumber : Scalar → Bool
  | int _ => true
  | float _ => true
  | _ => false

/-- Numbers with digits: all but the infinities and what is no number. -/
def isFinite : Scalar → Bool
  | int _ => true
  | float v => v.isFinite
  | _ => false

end Scalar

private theorem isNumeral_of_mem_signed {s : Spelling} (hs : s.IsProper) (negative : Bool) :
    ∀ c ∈ Scalar.signed negative s.text, isNumeral c = true := by
  have htext : ∀ c ∈ s.text, isNumeral c = true := by
    intro c hc
    rcases Spelling.mem_text hs hc with hdigit | rfl | rfl | rfl
    · rw [isNumeral, Char.isAlphanum, hdigit, Bool.or_true]
      rfl
    · rfl
    · rfl
    · rfl
  cases negative with
  | false => exact htext
  | true => exact List.forall_mem_cons.2 ⟨rfl, htext⟩

end Yaml

namespace Binding

open Decimal Yaml

section

variable {f : Format}

/-- The numeral of a spelling `s` behind a sign is read in any format `f`. -/
theorem ScalarType.number_read_signed {s : Spelling} (hs : s.IsProper) (negative : Bool) {text : String}
    (htext : text.toList = Scalar.signed negative s.text) :
    (ScalarType.number f).read text = .ok ((s.numeral negative).toFloating f) := by
  have htrim := trim_of_isNumeral (isNumeral_of_mem_signed hs negative) (List.forall_mem_nil _) (List.forall_mem_nil _)
  rw [List.nil_append, List.append_nil] at htrim
  change (f.read? (Text.trim text.toList)).mapError _ = _
  rw [htext, htrim, Scalar.read?_signed hs]
  rfl

/-- A finite double that `render` writes is read back as it is, and in any other format as some number. -/
theorem ScalarType.number_read_render (l : Layout) (negative : Bool) {m : Nat} {e : Int} (h : IsDouble m e) :
    (∃ v, (ScalarType.number f).read (l.render binary64 (.finite negative m e)) = .ok v) ∧
      (ScalarType.number binary64).read (l.render binary64 (.finite negative m e)) = .ok (.finite negative m e) := by
  obtain ⟨s, hs, -, htext, hvalue⟩ := exists_spelling_render l negative h
  refine ⟨⟨_, number_read_signed hs negative htext⟩, ?_⟩
  rw [number_read_signed hs negative htext, hvalue]

/-- An integer of a document has few digits, so that none of its value is cut off before it is rounded. -/
theorem toFloating_natDigits (negative : Bool) {n : Nat} (hn : n < 18446744073709551616) :
    Numeral.toFloating f ⟨negative, n, 0⟩ = f.round negative n 1 := by
  have hwidth : (natDigits n).length ≤ 20 :=
    (Nat.length_toDigits_le_iff (by decide) (by decide)).2 (Nat.lt_of_lt_of_le hn (by decide))
  rw [Numeral.toFloating]
  dsimp only
  split
  · rename_i hzero
    rw [hzero]
  · rw [if_neg (by rw [farPower]; omega), if_neg (by rw [farPower]; omega), if_pos (Int.le_refl 0)]
    rw [Int.toNat_zero, Nat.pow_eq, Nat.pow_zero, Nat.mul_one]

/-- The text of `n` is read as `n` rounded to the nearest value of the format `f`. -/
theorem ScalarType.number_read_integerText {n : Int} (h : Scalar.isWordSized n = true) :
    (ScalarType.number f).read (integerText n) = .ok (f.round (n < 0) n.natAbs 1) := by
  obtain ⟨hlow, hhigh⟩ := Scalar.isWordSized_iff.1 h
  let s : Spelling := ⟨natDigits n.natAbs, [], none⟩
  have hs : s.IsProper := ⟨natDigits_ne_nil _, fun c hc => isDigit_of_mem_natDigits hc, nofun⟩
  have htext : (integerText n).toList = Scalar.signed (decide (n < 0)) s.text := by
    have hdigits : s.text = natDigits n.natAbs := List.append_nil _
    rw [toList_integerText, hdigits, Scalar.signed]
    simp only [decide_eq_true_eq]
  have hnumeral : s.numeral (decide (n < 0)) = ⟨decide (n < 0), n.natAbs, 0⟩ := by
    have hvalue : digitsValue (natDigits n.natAbs ++ []) = n.natAbs := by
      rw [List.append_nil, digitsValue_natDigits]
    rw [Spelling.numeral, hvalue]
    rfl
  rw [number_read_signed hs _ htext, hnumeral, toFloating_natDigits _ (by omega)]

/-- The words of a document for infinity and for what is no number are not read. -/
theorem ScalarType.number_read_word {v : Floating} (h : v.isFinite = false) :
    (ScalarType.number f).read (Layout.document.render binary64 v) = .error FloatingFault.invalid.message := by
  cases v with
  | nan => rfl
  | infinity negative => cases negative <;> rfl
  | finite negative m e => cases h

end

end Binding

namespace Config

open Yaml Decimal Binding

/-- A number `a` of a document is read by a field of the format `f` just if it is finite. -/
theorem number_read_text_iff {a : Scalar} (ha : a.IsRead) (hnumber : a.isNumber = true) (f : Format) :
    (∃ v, (ScalarType.number f).read a.text = .ok v) ↔ a.isFinite = true := by
  cases a with
  | int n => exact iff_of_true ⟨_, ScalarType.number_read_integerText ha⟩ rfl
  | float v =>
    cases hfinite : v.isFinite with
    | true =>
      cases v with
      | finite negative m e => exact iff_of_true (ScalarType.number_read_render .document negative ha).1 rfl
      | nan => cases hfinite
      | infinity negative => cases hfinite
    | false =>
      refine iff_of_false ?_ (by rw [Scalar.isFinite, hfinite]; exact Bool.false_ne_true)
      rintro ⟨w, hw⟩
      cases (ScalarType.number_read_word hfinite).symm.trans hw
  | null => cases hnumber
  | bool b => cases hnumber
  | string t => cases hnumber

/-- The field `binary64` gets a finite float bit by bit. -/
theorem number_read_float {v : Floating} (hread : (Scalar.float v).IsRead) (hfinite : v.isFinite = true) :
    (ScalarType.number binary64).read (Scalar.float v).text = .ok v := by
  cases v with
  | finite negative mantissa e => exact (ScalarType.number_read_render (f := binary64) .document negative hread).2
  | nan => cases hfinite
  | infinity negative => cases hfinite

section Field

variable {σ : Type} {f : Format} {fs : Fields σ} {k : String} {field : Binding.Field σ} {store : Floating → σ → σ}
  (hfield : fs.find? k = some field) (htakes : Takes (.number f) field store) {a : Scalar} (hread : a.IsRead)
  (hnumber : a.isNumber = true)

include hfield htakes hread hnumber

private theorem exists_stores_number (hfinite : a.isFinite = true) :
    ∃ v, (ScalarType.number f).read a.text = .ok v ∧ fs.Stores k a.text (store v) := by
  obtain ⟨v, hv⟩ := (number_read_text_iff hread hnumber f).2 hfinite
  exact ⟨v, hv, Fields.stores_of_read hfield htakes hv⟩

private theorem refuses_number (hfinite : a.isFinite = false) : fs.Refuses k a.text := by
  cases herror : (ScalarType.number f).read a.text with
  | error reason => exact Fields.refuses_of_read hfield htakes herror
  | ok v =>
    have hcontra := (number_read_text_iff hread hnumber f).1 ⟨v, herror⟩
    rw [hfinite] at hcontra
    cases hcontra

end Field

/-- Numbers on their way from a document to a floating-point field. Wherever a document has a scalar that means the
number `a`, its configuration has `a.text`. An entry of that stores a number in a field of any format `f` if `a` is
finite: an integer rounded to the nearest value, and a float in its own format `binary64` as it is. If `a` is
infinite or no number at all, the entry is refused and the record left as it was. -/
theorem numbers_of_document {s : String} {node : Node} (hnode : Node.ofText s = .ok node) {p : List Nat} {m : Mark}
    {anchor : Option Nat} {tag : Option String} {t : String} {style : Style}
    (hat : (Document.ofText s).at? p = some (.scalar m anchor tag t style)) {a : Scalar}
    (hmeaning : Yaml.Node.scalarMeaning tag t style = .ok a) (hnumber : a.isNumber = true) :
    node.at? p = some (.scalar a.text) ∧
    (∀ v, a = .float v → v.isFinite = true → (ScalarType.number binary64).read a.text = .ok v) ∧
    ∀ f : Format,
      (∀ n, a = .int n → (ScalarType.number f).read a.text = .ok (f.round (n < 0) n.natAbs 1)) ∧
      ∀ (σ : Type) (fs : Fields σ) k field (store : Floating → σ → σ), fs.find? k = some field →
        Takes (.number f) field store →
          (a.isFinite = true → ∃ v, (ScalarType.number f).read a.text = .ok v ∧ fs.Stores k a.text (store v)) ∧
          (a.isFinite = false → fs.Refuses k a.text) := by
  have hnull : a ≠ .null := by
    rintro rfl
    cases hnumber
  obtain ⟨hplace, hsize⟩ := Node.at?_of_scalar hnode hat hmeaning hnull
  have hread : a.IsRead := Reader.isRead_of_scalarMeaning hmeaning hsize
  refine ⟨hplace, ?_, fun f => ⟨?_, fun σ fs k field store hfield htakes => ⟨?_, ?_⟩⟩⟩
  · rintro v rfl hfinite
    exact number_read_float hread hfinite
  · rintro n rfl
    exact ScalarType.number_read_integerText hread
  · exact exists_stores_number hfield htakes hread hnumber
  · exact refuses_number hfield htakes hread hnumber

/-- A record of one floating-point number of the format `f`. -/
def ratioFields (f : Format) : Fields Floating := .cons "ratio" (.scalar (.number f)) (fun v _ => v) .nil

/-- A float with a power passes to a field of either format. -/
theorem numbers_of_document_power : ∃ node, Node.ofText "ratio: 2.5e+1\n" = .ok node ∧
    node.at? [0] = some (.scalar "25.0") ∧
    (ScalarType.number binary64).read "25.0" = .ok (.finite false 7036874417766400 (-48)) ∧
    ∀ f : Format, ∃ v, (ratioFields f).Stores "ratio" "25.0" fun _ => v := by
  have hline : "ratio: 2.5e+1\n" = entryLine "ratio" "2.5e+1" := by decide
  have hkey : IsPlain "ratio" := ⟨by decide, by decide⟩
  have hplain : IsPlain "2.5e+1" := ⟨by decide, by decide⟩
  have hvalue : Scalar.ofPlain "2.5e+1" = .float (.finite false 7036874417766400 (-48)) := rfl
  have hmeaning : Yaml.Node.scalarMeaning none "2.5e+1" .plain = .ok (.float (.finite false 7036874417766400 (-48))) :=
    rfl
  have htext : (Scalar.float (.finite false 7036874417766400 (-48))).text = "25.0" := rfl
  have hnode := Node.ofText_entryLine hkey (by decide) rfl hplain (by rw [hvalue]; exact nofun) fun i hi => by
    cases hvalue.symm.trans hi
  obtain ⟨_, _, m, hdocument⟩ := Document.ofText_entryLine hkey (by decide) hplain
  have hat : (Document.ofText (entryLine "ratio" "2.5e+1")).at? [0] = some (.scalar m none none "2.5e+1" .plain) := by
    rw [hdocument]
    rfl
  rw [← hline, hvalue, htext] at hnode
  rw [← hline] at hat
  obtain ⟨hplace, hsame, hfields⟩ := numbers_of_document hnode hat hmeaning rfl
  rw [htext] at hplace hsame hfields
  refine ⟨_, hnode, hplace, hsame _ rfl rfl, fun f => ?_⟩
  obtain ⟨v, -, hstores⟩ := ((hfields f).2 Floating (ratioFields f) "ratio" _ (fun v _ => v) rfl (.always _)).1 rfl
  exact ⟨v, hstores⟩

/-- A document has a number for `ratio` of which its configuration has a text that no field reads. -/
def Unread (t u : String) : Prop :=
  Node.ofText (entryLine "ratio" t) = .ok (.mapping [("ratio", .scalar u)]) ∧ (Scalar.ofPlain t).isNumber = true ∧
    ∀ f : Format, (ratioFields f).Refuses "ratio" u

private theorem unread_of_not_isFinite {t : String} {v : Floating} (ht : IsPlain t)
    (hplain : Scalar.ofPlain t = .float v)
    (hfinite : v.isFinite = false) : Unread t (Scalar.text (.float v)) := by
  have hkey : IsPlain "ratio" := ⟨by decide, by decide⟩
  have hnull : Scalar.ofPlain t ≠ .null := by
    rw [hplain]
    exact nofun
  have hint : ∀ i, Scalar.ofPlain t = .int i → Scalar.isWordSized i = true := by
    intro i hi
    cases hplain.symm.trans hi
  have hnode := Node.ofText_entryLine hkey (by decide) rfl ht hnull hint
  rw [hplain] at hnode
  refine ⟨hnode, by rw [hplain]; rfl, fun f => ?_⟩
  have hfield : (ratioFields f).find? "ratio" = some ⟨.scalar (.number f), fun v _ => v⟩ := rfl
  exact Fields.refuses_of_read hfield (.always _) (ScalarType.number_read_word hfinite)

/-- The infinities and what is no number are numbers that do not reach a field, while the words of a field for the
same values, and a number too large for a document to take for one, do. -/
theorem numbers_of_document_unread : Unread ".inf" ".inf" ∧ Unread "+.Inf" ".inf" ∧ Unread "-.INF" "-.inf" ∧
    Unread ".NaN" ".nan" ∧ (ScalarType.number binary64).read "inf" = .ok (.infinity false) ∧
    (ScalarType.number binary64).read "nan" = .ok .nan ∧
    Scalar.ofPlain "1e400" = .string "1e400" ∧ (ScalarType.number binary64).read "1e400" = .ok (.infinity false) := by
  refine ⟨?_, ?_, ?_, ?_, by decide, by decide, by decide +kernel, by decide +kernel⟩
  · exact unread_of_not_isFinite (v := .infinity false) ⟨by decide, by decide⟩ rfl rfl
  · exact unread_of_not_isFinite (v := .infinity false) ⟨by decide, by decide⟩ rfl rfl
  · exact unread_of_not_isFinite (v := .infinity true) ⟨by decide, by decide⟩ rfl rfl
  · exact unread_of_not_isFinite (v := .nan) ⟨by decide, by decide⟩ rfl rfl

end Config

end DatasetLint
