import DatasetLint.Files.Path
import DatasetLint.Proofs.Text.Pieces

/-!
# Paths from a root on

What is joined to a root begins with the root, and can be told from the whole. The name of what is below a
root is relative.
-/

namespace DatasetLint.Files.Path

/-! ## Parts -/

/-- A piece `cs` between slashes is no root, and its text begins with something else than a slash. -/
theorem head?_text_ofPiece {cs : List Char} (hne : cs ≠ []) (hcs : '/' ∉ cs) :
    Part.ofPiece cs ≠ .root ∧ ∃ c, (Part.ofPiece cs).text.toList.head? = some c ∧ c ≠ '/' := by
  rw [Part.ofPiece]
  split
  · exact ⟨nofun, '.', rfl, by decide⟩
  · split
    · exact ⟨nofun, '.', rfl, by decide⟩
    · obtain ⟨c, r, rfl⟩ := List.exists_cons_of_ne_nil hne
      refine ⟨nofun, c, ?_, fun hc => hcs (hc ▸ List.mem_cons_self ..)⟩
      rw [Part.text, String.toList_ofList, List.head?_cons]

private theorem head?_text {p : String} {x : Part} (hx : x ∈ steps p) :
    x ≠ .root ∧ ∃ c, x.text.toList.head? = some c ∧ c ≠ '/' := by
  have hnamed : ∀ y ∈ ((Text.pieces (· == '/') p.toList).filter (!·.isEmpty)).map Part.ofPiece,
      y ≠ .root ∧ ∃ c, y.text.toList.head? = some c ∧ c ≠ '/' := by
    intro y hy
    obtain ⟨cs, hcs, rfl⟩ := List.mem_map.1 hy
    rw [List.mem_filter] at hcs
    refine head?_text_ofPiece (fun h => ?_) fun h => ?_
    · rw [h] at hcs
      cases hcs.2
    · exact absurd (Text.separates_of_mem_pieces hcs.1 h) (by decide)
  rw [steps] at hx
  split at hx
  · rcases List.mem_append.1 hx with hx | hx
    · exact hnamed x hx
    · rw [List.mem_singleton] at hx
      subst hx
      exact ⟨nofun, '.', rfl, by decide⟩
  · exact hnamed x hx

theorem parts_of_isAbsolute {p : String} (h : isAbsolute p = true) :
    parts p = .root :: (steps p).filter (· ≠ .here) := by
  rw [parts, if_pos h]
  rfl

/-! ## Names below a root -/

/-- A list `ps` of parts without a root gives a relative path. -/
theorem isAbsolute_intercalate {ps : List Part} (h : ∀ x ∈ ps, ∃ c, x.text.toList.head? = some c ∧ c ≠ '/') :
    isAbsolute (Text.intercalate "/" (ps.map Part.text)) = false := by
  cases ps with
  | nil => rfl
  | cons x ps =>
    obtain ⟨c, hc, hne⟩ := h x (List.mem_cons_self ..)
    obtain ⟨r, hr⟩ := List.head?_eq_some_iff.1 hc
    have hhead : (Text.join "/".toList (((x :: ps).map Part.text).map String.toList)).head? = some c := by
      rw [List.map_cons, List.map_cons, hr]
      cases ps <;> rfl
    rw [isAbsolute, Text.intercalate, String.toList_ofList, hhead]
    exact beq_eq_false_iff_ne.2 fun h => hne (Option.some.inj h)

/-- Below an absolute `root`, the root of the file system is left behind. -/
theorem isAbsolute_nameBelow {root p : String} (hroot : isAbsolute root = true) (hp : parts root <+: parts p) :
    isAbsolute (nameBelow root p) = false := by
  rw [nameBelow, List.isPrefixOf_iff_prefix.2 hp, if_pos rfl]
  refine isAbsolute_intercalate fun x hx => ?_
  rw [parts_of_isAbsolute hroot, List.length_cons] at hx
  -- only the first part of a path can be the root
  have hsteps : x ∈ steps p := by
    by_cases hp : isAbsolute p = true
    · rw [parts_of_isAbsolute hp, List.drop_succ_cons] at hx
      exact (List.mem_filter.1 (List.mem_of_mem_drop hx)).1
    · rw [parts, if_neg hp] at hx
      rcases List.mem_append.1 (List.mem_of_mem_drop hx) with hx | hx
      · split at hx
        · rename_i hhere
          rw [List.mem_singleton.1 hx]
          exact List.mem_of_head? hhere
        · cases hx
      · exact (List.mem_filter.1 hx).1
  exact (head?_text hsteps).2

/-! ## Joining -/

/-- The path `root` with the slash that may be needed behind it. -/
def joint (root : String) : String := if root.isEmpty || endsWithSlash root then root else root ++ "/"

theorem join_of_relative {root p : String} (hp : isAbsolute p = false) : join root p = joint root ++ p := by
  rw [join, hp, joint]
  split
  · contradiction
  · split <;> rfl

/-- Nothing but a slash comes between `root` and what is joined to it. -/
theorem mem_join {root p : String} (hp : isAbsolute p = false) {c : Char} (hc : c ≠ '/') :
    c ∈ (join root p).toList ↔ c ∈ root.toList ∨ c ∈ p.toList := by
  have hjoint : c ∈ (joint root).toList ↔ c ∈ root.toList := by
    rw [joint]
    split
    · exact Iff.rfl
    · rw [String.toList_append, List.mem_append]
      exact or_iff_left fun h => hc (List.mem_singleton.1 h)
  rw [join_of_relative hp, String.toList_append, List.mem_append, hjoint]

theorem isAbsolute_joint {root p : String} (hroot : root.toList ≠ []) :
    isAbsolute (joint root ++ p) = isAbsolute root := by
  obtain ⟨c, r, hr⟩ := List.exists_cons_of_ne_nil hroot
  have hjoint : (joint root).toList.head? = root.toList.head? := by
    rw [joint]
    split
    · rfl
    · rw [String.toList_append, hr]
      rfl
  rw [isAbsolute, isAbsolute, String.toList_append, List.head?_append, hjoint, hr]
  rfl

/-- What is joined to an absolute `root` is absolute. -/
theorem isAbsolute_join {root p : String} (hroot : isAbsolute root = true) : isAbsolute (join root p) = true := by
  cases hp : isAbsolute p with
  | true => rw [join, if_pos hp, hp]
  | false =>
    have hne : root.toList ≠ [] := by
      intro h
      rw [isAbsolute, h] at hroot
      cases hroot
    rw [join_of_relative hp, isAbsolute_joint hne, hroot]

/-! ## One name further -/

/-- A text `n` that can be the name of something: it is no point or two, and no separator is in it. -/
structure IsName (n : String) : Prop where
  ne_empty : n.toList ≠ []
  slash_not_mem : '/' ∉ n.toList
  not_here : n.toList ≠ ['.']
  not_up : n.toList ≠ ['.', '.']

theorem IsName.isAbsolute {n : String} (hn : IsName n) : isAbsolute n = false := by
  refine beq_eq_false_iff_ne.2 fun h => hn.slash_not_mem ?_
  exact List.mem_of_head? h

private theorem IsName.ofPiece {n : String} (hn : IsName n) : Part.ofPiece n.toList = .name n := by
  rw [Part.ofPiece, if_neg hn.not_here, if_neg hn.not_up, String.ofList_toList]

/-- The steps of `p` without the one that a slash at its end makes. -/
def named (p : String) : List Part :=
  ((Text.pieces (· == '/') p.toList).filter (!·.isEmpty)).map Part.ofPiece

theorem steps_eq (p : String) : steps p = named p ∨ steps p = named p ++ [.here] := by
  rw [steps]
  split
  · exact .inr rfl
  · exact .inl rfl

theorem steps_of_getLast? {p : String} (h : p.toList.getLast? ≠ some '/') : steps p = named p := by
  have hlast : (p.toList.getLast? == some '/') = false := beq_eq_false_iff_ne.2 h
  rw [steps, hlast, Bool.and_false]
  rfl

theorem named_append_slash (p q : String) : named (p ++ "/" ++ q) = named p ++ named q := by
  have hcut := Text.pieces_append_cons (· == '/') (beq_self_eq_true '/') p.toList q.toList
  have htext : (p ++ "/" ++ q).toList = p.toList ++ '/' :: q.toList := by
    rw [String.toList_append, String.toList_append, List.append_assoc]
    rfl
  rw [named, htext, hcut, List.filter_append, List.map_append]
  rfl

private theorem IsName.named {n : String} (hn : IsName n) : named n = [.name n] := by
  have hpieces : Text.pieces (· == '/') n.toList = [n.toList] :=
    Text.pieces_eq_singleton fun c hc => beq_eq_false_iff_ne.2 fun h => hn.slash_not_mem (h ▸ hc)
  have hfilter : [n.toList].filter (!·.isEmpty) = [n.toList] := by
    rw [List.filter_cons, if_pos (by simpa using hn.ne_empty), List.filter_nil]
  rw [Path.named, hpieces, hfilter, List.map_singleton, hn.ofPiece]

private theorem named_joint (base n : String) : named (joint base ++ n) = named base ++ named n := by
  rw [joint]
  split
  · rename_i h
    rw [Bool.or_eq_true, String.isEmpty_iff] at h
    rcases h with rfl | hslash
    · rw [String.empty_append]
      rfl
    · -- the slash at the end is one that is cut at
      rw [endsWithSlash, beq_iff_eq] at hslash
      obtain ⟨cs, hcs⟩ := List.getLast?_eq_some_iff.1 hslash
      have hbase : base = String.ofList cs ++ "/" := by
        rw [← String.toList_inj, hcs, String.toList_append, String.toList_ofList]
        rfl
      have hnone := named_append_slash (String.ofList cs) ""
      rw [String.append_empty] at hnone
      rw [hbase, named_append_slash, hnone, List.append_assoc]
      rfl
  · exact named_append_slash base n

/-- Behind the path `base`, the name `n` is one more step; whether a slash ends `base` does not matter. -/
theorem steps_join {base n : String} (hn : IsName n) : steps (join base n) = named base ++ [.name n] := by
  have hlast : (joint base ++ n).toList.getLast? ≠ some '/' := by
    obtain ⟨c, hc⟩ := Option.isSome_iff_exists.1 (List.getLast?_isSome.2 hn.ne_empty)
    rw [String.toList_append, List.getLast?_append, hc, Option.some_or]
    exact fun h => hn.slash_not_mem (List.mem_of_getLast? (hc.trans h))
  rw [join_of_relative hn.isAbsolute, steps_of_getLast? hlast, named_joint, hn.named]

end DatasetLint.Files.Path
