import DatasetLint.Proofs.Files.Below
import Mathlib.Data.List.Flatten

/-!
# Paths outside a root

What is not below a root has its whole path for a name, without what is redundant in it. An absolute path gets one
slash more in front. Where the path leads, its name leads too.
-/

namespace DatasetLint

/-! ## Joined pieces -/

namespace Text

private theorem join_cons_eq_flatMap (c : Char) (w : List Char) (ws : List (List Char)) :
    join [c] (w :: ws) = w ++ ws.flatMap (c :: ·) := by
  induction ws generalizing w with
  | nil => exact (List.append_nil w).symm
  | cons v ws ih =>
    rw [join, ih, List.flatMap_cons, List.append_assoc]
    · rfl
    · exact fun h => List.cons_ne_nil v ws h

private theorem utf8ByteSize_le_of_sublist {as bs : List Char} (h : as.Sublist bs) :
    (String.ofList as).utf8ByteSize ≤ (String.ofList bs).utf8ByteSize := by
  induction h with
  | slnil => exact Nat.le_refl _
  | cons b _ ih =>
    rw [String.ofList_cons, String.utf8ByteSize_append]
    omega
  | cons_cons b _ ih =>
    rw [String.ofList_cons, String.ofList_cons, String.utf8ByteSize_append, String.utf8ByteSize_append]
    omega

end Text

namespace Files

open Text

namespace Path

variable {root p : String}

/-! ## Clean paths -/

/-- What stands in front of the first slash of the path `p`. -/
def first (p : String) : List Char := p.toList.takeWhile (· != '/')

/-- The pieces behind the first slash of `p`, without those that say nothing: empty ones and points. -/
def behind (p : String) : List (List Char) := (pieces (· == '/') p.toList).tail.filter fun w => w ≠ [] ∧ w ≠ ['.']

/-- The path `p` without repeated slashes, slashes at its end and points behind its start. -/
def cleaned (p : String) : String :=
  if isAbsolute p = true ∧ behind p = [] then "/" else String.ofList (Text.join ['/'] (first p :: behind p))

example : cleaned ".//a/./b/../c/" = "./a/b/../c" := by decide +kernel

private theorem pieces_eq (p : String) : pieces (· == '/') p.toList = first p :: (pieces (· == '/') p.toList).tail := by
  obtain ⟨w, ws, hpieces⟩ := List.exists_cons_of_ne_nil (pieces_ne_nil (· == '/') p.toList)
  have hhead := @head?_pieces (· == '/') p.toList
  rw [hpieces, List.head?_cons, Option.some.injEq] at hhead
  rw [hpieces, List.tail_cons]
  exact congrArg (· :: ws) hhead

theorem first_eq_nil_iff : first p = [] ↔ p.toList = [] ∨ isAbsolute p = true := by
  rw [first, isAbsolute]
  cases p.toList with
  | nil => simp
  | cons c cs =>
    rw [List.takeWhile_cons]
    by_cases hc : c = '/'
    · simp [hc]
    · simp [hc]

private theorem slash_not_mem_of_mem_pieces {w : List Char} (h : w ∈ pieces (· == '/') p.toList) : '/' ∉ w := by
  intro hslash
  exact absurd (separates_of_mem_pieces h hslash) (by decide)

private theorem slash_not_mem_first (p : String) : '/' ∉ first p := by
  have hmem : first p ∈ pieces (· == '/') p.toList := List.mem_of_head? (head?_pieces p.toList)
  exact slash_not_mem_of_mem_pieces hmem

private theorem mem_behind {w : List Char} (h : w ∈ behind p) : w ≠ [] ∧ '/' ∉ w := by
  obtain ⟨hmem, hne⟩ := List.mem_filter.1 h
  rw [decide_eq_true_eq] at hne
  exact ⟨hne.1, slash_not_mem_of_mem_pieces (List.mem_of_mem_tail hmem)⟩

/-- What is joined of pieces is relative if the first of them, `w`, is not empty. -/
theorem isAbsolute_join_pieces {w : List Char} (hw : w ≠ [] ∧ '/' ∉ w) (ws : List (List Char)) :
    isAbsolute (String.ofList (Text.join ['/'] (w :: ws))) = false := by
  obtain ⟨c, w, rfl⟩ := List.exists_cons_of_ne_nil hw.1
  rw [isAbsolute, String.toList_ofList, join_cons_eq_flatMap, List.cons_append, List.head?_cons, beq_eq_false_iff_ne]
  exact fun hc => hw.2 (Option.some.inj hc ▸ List.mem_cons_self ..)

/-- Nothing is added to a path that is `cleaned`. -/
theorem cleaned_sublist (p : String) : (cleaned p).toList.Sublist p.toList := by
  rw [cleaned]
  split
  · rename_i h
    obtain ⟨r, hr⟩ := List.head?_eq_some_iff.1 (beq_iff_eq.1 h.1)
    rw [hr]
    exact (List.nil_sublist r).cons_cons '/'
  · rw [String.toList_ofList, join_cons_eq_flatMap]
    have hwhole : p.toList = first p ++ ((pieces (· == '/') p.toList).tail).flatMap ('/' :: ·) := by
      rw [← join_cons_eq_flatMap, ← pieces_eq, join_pieces]
    rw [hwhole]
    exact (List.filter_sublist.flatMap _).append_left _

/-! ## Parts -/

private theorem text_ofPiece (cs : List Char) : (Part.ofPiece cs).text = String.ofList cs := by
  rw [Part.ofPiece]
  split
  · rename_i h
    rw [h]
    rfl
  · split
    · rename_i h
      rw [h]
      rfl
    · rfl

theorem ofPiece_eq_here_iff {cs : List Char} : Part.ofPiece cs = .here ↔ cs = ['.'] := by
  rw [Part.ofPiece]
  split
  · rename_i h
    exact iff_of_true rfl h
  · rename_i h
    split
    · exact iff_of_false (fun h' => by cases h') h
    · exact iff_of_false (fun h' => by cases h') h

private theorem first_of_relative (hp : isAbsolute p = false) (hne : p.toList ≠ []) : first p ≠ [] ∧ '/' ∉ first p := by
  refine ⟨fun h => ?_, slash_not_mem_first p⟩
  rcases first_eq_nil_iff.1 h with hnil | habsolute
  · exact hne hnil
  · exact Bool.false_ne_true (hp.symm.trans habsolute)

private theorem cleaned_of_relative (hp : isAbsolute p = false) :
    cleaned p = String.ofList (Text.join ['/'] (first p :: behind p)) := by
  rw [cleaned, if_neg fun h => Bool.false_ne_true (hp.symm.trans h.1)]

/-- A path begins with the step of what is in front of its `first` slash, if anything is there. Of the other steps
`xs`, those that are no points come from the pieces `behind` it. -/
theorem exists_steps (p : String) : ∃ xs, steps p = ([first p].filter (!·.isEmpty)).map Part.ofPiece ++ xs ∧
    xs.filter (· ≠ .here) = (behind p).map Part.ofPiece := by
  let tail := (((pieces (· == '/') p.toList).tail).filter (!·.isEmpty)).map Part.ofPiece
  have hnamed : named p = ([first p].filter (!·.isEmpty)).map Part.ofPiece ++ tail := by
    rw [named, pieces_eq, ← List.singleton_append, List.filter_append, List.map_append]
  have htail : tail.filter (· ≠ .here) = (behind p).map Part.ofPiece := by
    rw [List.filter_map, List.filter_filter, behind]
    refine congrArg _ (List.filter_congr fun w _ => ?_)
    cases w <;> simp [ofPiece_eq_here_iff]
  rcases steps_eq p with h | h
  · exact ⟨tail, h.trans hnamed, htail⟩
  · refine ⟨tail ++ [.here], ?_, ?_⟩
    · rw [h, hnamed, List.append_assoc]
    · rw [List.filter_append, htail]
      exact List.append_nil _

private theorem parts_eq_of_isAbsolute (hp : isAbsolute p = true) : parts p = .root :: (behind p).map Part.ofPiece := by
  obtain ⟨xs, hsteps, hxs⟩ := exists_steps p
  rw [first_eq_nil_iff.2 (.inr hp)] at hsteps
  have hsteps : steps p = xs := hsteps
  rw [parts_of_isAbsolute hp, hsteps, hxs]

private theorem steps_eq_cons_of_relative (hp : isAbsolute p = false) (hne : p.toList ≠ []) : ∃ xs,
    steps p = Part.ofPiece (first p) :: xs ∧ xs.filter (· ≠ .here) = (behind p).map Part.ofPiece := by
  obtain ⟨xs, hsteps, hxs⟩ := exists_steps p
  have hfirst : (first p).isEmpty = false := List.isEmpty_eq_false_iff.2 (first_of_relative hp hne).1
  rw [List.filter_cons_of_pos (by rw [hfirst]; rfl)] at hsteps
  exact ⟨xs, hsteps, hxs⟩

/-- A relative path `p` keeps what is in front of its first slash, also a point. -/
theorem parts_eq_of_relative (hp : isAbsolute p = false) (hne : p.toList ≠ []) :
    parts p = Part.ofPiece (first p) :: (behind p).map Part.ofPiece := by
  obtain ⟨xs, hsteps, hxs⟩ := steps_eq_cons_of_relative hp hne
  rw [parts, hsteps, hp, List.head?_cons, if_neg Bool.false_ne_true, List.filter_cons]
  by_cases hhere : Part.ofPiece (first p) = .here
  · rw [hhere, if_pos rfl, hxs]
    rfl
  · rw [if_neg fun h => hhere (Option.some.inj h), if_pos (decide_eq_true hhere), hxs]
    rfl

/-! ## Names outside the root -/

private theorem intercalate_text (x : Part) (ws : List (List Char)) :
    intercalate "/" ((x :: ws.map Part.ofPiece).map Part.text) =
      String.ofList (Text.join ['/'] (x.text.toList :: ws)) := by
  have htexts : (ws.map Part.ofPiece).map (String.toList ∘ Part.text) = ws := by
    rw [List.map_map]
    refine (List.map_congr_left fun w _ => ?_).trans (List.map_id ws)
    show (Part.ofPiece w).text.toList = w
    rw [text_ofPiece, String.toList_ofList]
  rw [intercalate, List.map_map, List.map_cons, htexts]
  rfl

private theorem nameBelow_of_relative (h : ¬parts root <+: parts p) (hp : isAbsolute p = false) :
    nameBelow root p = cleaned p := by
  rw [nameBelow, if_neg fun h' => h (List.isPrefixOf_iff_prefix.1 h'), cleaned_of_relative hp]
  by_cases hne : p.toList = []
  · obtain rfl : p = "" := String.toList_inj.1 hne
    rfl
  · rw [parts_eq_of_relative hp hne, intercalate_text, text_ofPiece, String.toList_ofList]

/-- What `cleaned p` has behind its slash if `p` is absolute. -/
def unrooted (p : String) : String := String.ofList (Text.join ['/'] (behind p))

private theorem isAbsolute_unrooted (p : String) : isAbsolute (unrooted p) = false := by
  rw [unrooted]
  cases hbehind : behind p with
  | nil => rfl
  | cons w ws => exact isAbsolute_join_pieces (mem_behind (hbehind ▸ List.mem_cons_self ..)) ws

theorem unrooted_eq_empty_iff : unrooted p = "" ↔ behind p = [] := by
  rw [unrooted, ← String.toList_inj, String.toList_ofList]
  cases hbehind : behind p with
  | nil => exact iff_of_true rfl rfl
  | cons w ws =>
    have hne := (mem_behind (hbehind ▸ List.mem_cons_self .. : w ∈ behind p)).1
    rw [join_cons_eq_flatMap]
    exact iff_of_false (fun h => hne (List.append_eq_nil_iff.1 h).1) (List.cons_ne_nil w ws)

private theorem cleaned_of_isAbsolute (hp : isAbsolute p = true) : cleaned p = "/" ++ unrooted p := by
  rw [cleaned, first_eq_nil_iff.2 (.inr hp), unrooted, ← String.toList_inj, String.toList_append, String.toList_ofList]
  cases behind p with
  | nil =>
    rw [if_pos ⟨hp, rfl⟩]
    rfl
  | cons w ws =>
    rw [if_neg fun h => List.cons_ne_nil w ws h.2, String.toList_ofList, String.toList_ofList]
    rfl

private theorem nameBelow_of_isAbsolute (h : ¬parts root <+: parts p) (hp : isAbsolute p = true) :
    nameBelow root p = if unrooted p = "" then "/" else "//" ++ unrooted p := by
  rw [nameBelow, if_neg fun h' => h (List.isPrefixOf_iff_prefix.1 h'), parts_eq_of_isAbsolute hp, intercalate_text]
  split
  · rename_i hnone
    rw [unrooted_eq_empty_iff.1 hnone]
    rfl
  · rename_i hsome
    rw [unrooted_eq_empty_iff] at hsome
    rw [unrooted, ← String.toList_inj, String.toList_append, String.toList_ofList, String.toList_ofList]
    obtain ⟨w, ws, hbehind⟩ := List.exists_cons_of_ne_nil hsome
    rw [hbehind, String.toList_ofList]
    rfl

/-! ## Steps and characters of names -/

/-- The steps of the joined pieces `ws`, which are not empty. -/
theorem steps_of_words {ws : List (List Char)} (h : ∀ w ∈ ws, w ≠ [] ∧ '/' ∉ w) :
    named (String.ofList (Text.join ['/'] ws)) = ws.map Part.ofPiece ∧ (Text.join ['/'] ws).getLast? ≠ some '/' := by
  by_cases hne : ws = []
  · subst hne
    exact ⟨rfl, fun h => by cases h⟩
  · have hpieces := pieces_join hne fun w hw => (h w hw).2
    constructor
    · rw [named, String.toList_ofList, hpieces, List.filter_eq_self.2 fun w hw => by simpa using (h w hw).1]
    · intro hlast
      -- behind a slash at the end there would be an empty piece
      obtain ⟨cs, hcs⟩ := List.getLast?_eq_some_iff.1 hlast
      rw [hcs, pieces_append_cons (· == '/') (beq_self_eq_true '/') cs []] at hpieces
      exact (h [] (hpieces ▸ List.mem_append_right _ (List.mem_singleton_self _))).1 rfl

private theorem steps_cleaned (hp : isAbsolute p = false) (hne : p.toList ≠ []) :
    steps (cleaned p) = Part.ofPiece (first p) :: (behind p).map Part.ofPiece := by
  have hwords : ∀ w ∈ first p :: behind p, w ≠ [] ∧ '/' ∉ w :=
    List.forall_mem_cons.2 ⟨first_of_relative hp hne, fun _ => mem_behind⟩
  obtain ⟨hnamed, hlast⟩ := steps_of_words hwords
  rw [cleaned_of_relative hp, steps_of_getLast?, hnamed]
  · rfl
  · rwa [String.toList_ofList]

private theorem steps_two_slashes (h : unrooted p ≠ "") : steps ("//" ++ unrooted p) = (behind p).map Part.ofPiece := by
  obtain ⟨hnamed, hlast⟩ := steps_of_words fun w => mem_behind (p := p)
  have hslashes : "//" ++ unrooted p = "/" ++ "/" ++ unrooted p := rfl
  have hroot : named "/" = [] := by decide
  have hend : ("//" ++ unrooted p).toList.getLast? = (unrooted p).toList.getLast? := by
    have hne : (unrooted p).toList ≠ [] := fun h' => h (String.toList_inj.1 h')
    obtain ⟨c, hc⟩ := Option.isSome_iff_exists.1 (List.getLast?_isSome.2 hne)
    rw [String.toList_append, List.getLast?_append, hc, Option.some_or]
  rw [steps_of_getLast?, hslashes, named_append_slash, hroot, unrooted, hnamed, List.nil_append]
  rwa [hend, unrooted, String.toList_ofList]

private theorem isAbsolute_nameBelow_of_not_prefix (h : ¬parts root <+: parts p) (hne : p.toList ≠ []) :
    isAbsolute (nameBelow root p) = isAbsolute p := by
  cases hp : isAbsolute p with
  | false =>
    rw [nameBelow_of_relative h hp, cleaned_of_relative hp]
    exact isAbsolute_join_pieces (first_of_relative hp hne) (behind p)
  | true =>
    rw [nameBelow_of_isAbsolute h hp]
    split
    · rfl
    · rw [isAbsolute, String.toList_append]
      rfl

/-- `nameBelow root p` has no other characters than `p`, up to slashes. -/
theorem mem_nameBelow (h : ¬parts root <+: parts p) {c : Char} (hc : c ∈ (nameBelow root p).toList) :
    c = '/' ∨ c ∈ p.toList := by
  cases hp : isAbsolute p with
  | false =>
    rw [nameBelow_of_relative h hp] at hc
    exact .inr ((cleaned_sublist p).mem hc)
  | true =>
    rw [nameBelow_of_isAbsolute h hp] at hc
    split at hc
    · exact .inl (List.mem_singleton.1 hc)
    · rw [String.toList_append, List.mem_append] at hc
      rcases hc with hc | hc
      · exact .inl (by simpa using hc)
      · refine .inr ((cleaned_sublist p).mem ?_)
        rw [cleaned_of_isAbsolute hp, String.toList_append]
        exact List.mem_append_right _ hc

private theorem nameBelow_ne_nil (h : ¬parts root <+: parts p) (hne : p.toList ≠ []) :
    (nameBelow root p).toList ≠ [] := by
  cases hp : isAbsolute p with
  | false =>
    rw [nameBelow_of_relative h hp, cleaned_of_relative hp, String.toList_ofList, join_cons_eq_flatMap]
    exact fun hnil => (first_of_relative hp hne).1 (List.append_eq_nil_iff.1 hnil).1
  | true =>
    intro hnil
    have habsolute := isAbsolute_nameBelow_of_not_prefix h hne
    rw [hp, isAbsolute, hnil] at habsolute
    cases habsolute

end Path

/-! ## Where the names lead -/

namespace FileSystem

open Files.Path

variable {s : FileSystem} {t : Target} {root p : String}

/-- `nameBelow root p` has all steps of `p` but the points. -/
theorem leads_nameBelow (h : ¬parts root <+: parts p) (hne : p.toList ≠ []) {links : Nat} {place : Location}
    (hp : s.Leads links place (steps p) t) : s.Leads links place (steps (nameBelow root p)) t := by
  cases habsolute : isAbsolute p with
  | false =>
    obtain ⟨xs, hsteps, hxs⟩ := steps_eq_cons_of_relative habsolute hne
    rw [hsteps, ← List.singleton_append] at hp
    rw [nameBelow_of_relative h habsolute, steps_cleaned habsolute hne, ← hxs, ← List.singleton_append]
    exact hp.filter_here
  | true =>
    obtain ⟨xs, hsteps, hxs⟩ := exists_steps p
    rw [first_eq_nil_iff.2 (.inr habsolute)] at hsteps
    have hxs_leads : s.Leads links place ([] ++ xs) t := hsteps ▸ hp
    have hfilter : s.Leads links place (xs.filter (· ≠ .here)) t := hxs_leads.filter_here
    rw [hxs] at hfilter
    rw [nameBelow_of_isAbsolute h habsolute]
    split
    · rename_i hroot
      rw [unrooted_eq_empty_iff.1 hroot] at hfilter
      exact hfilter
    · rename_i hroot
      rwa [steps_two_slashes hroot]

/-- Where `p` leads, its name leads too; a relative one is never too long for that. -/
theorem resolve_nameBelow (h : ¬parts root <+: parts p) (hp : s.resolve p = .ok t)
    (hsize : isAbsolute p = true → (nameBelow root p).utf8ByteSize < pathLimit) :
    s.resolve (nameBelow root p) = .ok t := by
  obtain ⟨hne, hzero, hlength, hleads⟩ := resolve_eq_ok_iff.1 hp
  have hstart : s.startOf (nameBelow root p) = s.startOf p := by
    rw [startOf, startOf, isAbsolute_nameBelow_of_not_prefix h hne]
  refine resolve_eq_ok_iff.2 ⟨nameBelow_ne_nil h hne, fun hc => ?_, ?_, ?_⟩
  · rcases mem_nameBelow h hc with hslash | hmem
    · exact absurd hslash (by decide)
    · exact hzero hmem
  · cases habsolute : isAbsolute p with
    | false =>
      have hshort := utf8ByteSize_le_of_sublist (cleaned_sublist p)
      rw [String.ofList_toList, String.ofList_toList] at hshort
      rw [nameBelow_of_relative h habsolute]
      exact Nat.lt_of_le_of_lt hshort hlength
    | true => exact hsize habsolute
  · rw [hstart]
    exact leads_nameBelow h hne hleads

end FileSystem

/-- A path `p` that is not below `root` has `cleaned p` for a name if it is relative. If it is absolute there are
two slashes in front of the rest `q`, except for the root of all paths. In every file system `s` the name leads
where `p` leads, if it is shorter than `pathLimit`. -/
theorem Path.nameBelow_outside {root p : String} (h : ¬parts root <+: parts p) :
    (isAbsolute p = false → nameBelow root p = cleaned p) ∧
    (isAbsolute p = true → ∃ q, isAbsolute q = false ∧ cleaned p = "/" ++ q ∧
      nameBelow root p = if q = "" then "/" else "//" ++ q) ∧
    ∀ (s : FileSystem) t, s.resolve p = .ok t →
      (isAbsolute p = true → (nameBelow root p).utf8ByteSize < FileSystem.pathLimit) →
        s.resolve (nameBelow root p) = .ok t := by
  refine ⟨nameBelow_of_relative h, fun hp => ?_, fun s t => FileSystem.resolve_nameBelow h⟩
  exact ⟨unrooted p, isAbsolute_unrooted p, cleaned_of_isAbsolute hp, nameBelow_of_isAbsolute h hp⟩

/-- Two files beside the root: one by a relative path below `data`, and one by an absolute path. -/
theorem Path.nameBelow_outside_files :
    (¬parts "data" <+: parts "./x/./y.ttl" ∧ nameBelow "data" "./x/./y.ttl" = "./x/y.ttl") ∧
    ¬parts "/data" <+: parts "/x//y.ttl" ∧ nameBelow "/data" "/x//y.ttl" = "//x/y.ttl" ∧
    FileSystem.resolve ⟨.directory [("x", .directory [("y.ttl", .file .empty)])], []⟩ (nameBelow "/data" "/x//y.ttl") =
      .ok (.found ["x", "y.ttl"] (.file .empty)) := by
  have hrelative : ¬parts "data" <+: parts "./x/./y.ttl" := by decide +kernel
  have habsolute : ¬parts "/data" <+: parts "/x//y.ttl" := by decide +kernel
  obtain ⟨-, hname, hleads⟩ := nameBelow_outside habsolute
  obtain ⟨q, -, hq, hname⟩ := hname (by decide +kernel)
  have hclean : cleaned "/x//y.ttl" = "/" ++ "x/y.ttl" := by decide +kernel
  obtain rfl : q = "x/y.ttl" := by
    rw [hclean, ← String.toList_inj, String.toList_append, String.toList_append] at hq
    exact (String.toList_inj.1 (List.append_cancel_left hq)).symm
  have hname : nameBelow "/data" "/x//y.ttl" = "//x/y.ttl" := hname.trans (by decide +kernel)
  have hsteps : steps "/x//y.ttl" = [.name "x", .name "y.ttl"] := by decide +kernel
  refine ⟨⟨hrelative, ?_⟩, habsolute, hname, hleads _ _ ?_ fun _ => ?_⟩
  · rw [(nameBelow_outside hrelative).1 (by decide +kernel)]
    decide +kernel
  · refine FileSystem.resolve_eq_ok_iff.2 ⟨by decide, by decide +kernel, by decide, ?_⟩
    rw [hsteps]
    have hdirectory : ∀ t, Entry.directory [("y.ttl", .file .empty)] ≠ .link t := fun t h => by cases h
    have hfile : ∀ t, Entry.file .empty ≠ .link t := fun t h => by cases h
    exact .down rfl (by decide) rfl hdirectory (.down rfl (by decide) rfl hfile (.found rfl))
  · rw [hname]
    decide

/-- The absolute path `/x/y.ttl` beside the root `/data` gets a second slash. -/
theorem Path.nameBelow_twoSlashes : ¬parts "/data" <+: parts "/x/y.ttl" ∧ cleaned "/x/y.ttl" = "/x/y.ttl" ∧
    nameBelow "/data" "/x/y.ttl" = "//x/y.ttl" ∧ nameBelow "/data" "/x/y.ttl" ≠ cleaned "/x/y.ttl" := by
  decide +kernel

end Files

end DatasetLint
