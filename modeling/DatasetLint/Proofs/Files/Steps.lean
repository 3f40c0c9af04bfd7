import DatasetLint.Files.System

/-!
# Steps along a path

What a walk does first, one equation for each kind of step, and the induction along a walk. Nothing else needs to
know how the steps are told apart.
-/

namespace DatasetLint.Files.FileSystem

variable {s : FileSystem} {links : Nat} {place : Location} {rest : List Part} {es : List (String × Entry)}
  {e : Entry} {n : String}

/-! ## Where a walk ends -/

theorem walk_missing (h : s.root.at? place = none) : s.walk links place rest = .error .notFound := by
  rw [walk.eq_def, h]

theorem walk_found (h : s.root.at? place = some e) : s.walk links place [] = .ok (.found place e) := by
  rw [walk.eq_def, h]

theorem walk_notDirectory {x : Part} (h : s.root.at? place = some e) (hnot : ∀ es, e ≠ .directory es) :
    s.walk links place (x :: rest) = .error .notDirectory := by
  rw [walk.eq_def, h]
  cases e with
  | directory es => exact absurd rfl (hnot es)
  | file c => cases x <;> rfl
  | link target => cases x <;> rfl

theorem walk_nameTooLong (hdir : s.root.at? place = some (.directory es)) (hn : nameLimit < n.utf8ByteSize) :
    s.walk links place (.name n :: rest) = .error .nameTooLong := by
  rw [walk.eq_def, hdir]
  exact if_pos hn

theorem walk_absent (hdir : s.root.at? place = some (.directory es)) (hn : n.utf8ByteSize ≤ nameLimit)
    (he : es.lookup n = none) : s.walk links place [.name n] = .ok (.absent (place ++ [n])) := by
  rw [walk.eq_def, hdir]
  simp [Nat.not_lt.2 hn, he]

theorem walk_notFound (hdir : s.root.at? place = some (.directory es)) (hn : n.utf8ByteSize ≤ nameLimit)
    (he : es.lookup n = none) (hrest : rest ≠ []) : s.walk links place (.name n :: rest) = .error .notFound := by
  rw [walk.eq_def, hdir]
  simp [Nat.not_lt.2 hn, he, hrest]

theorem walk_tooManyLinks {target : String} (hdir : s.root.at? place = some (.directory es))
    (hn : n.utf8ByteSize ≤ nameLimit) (he : es.lookup n = some (.link target)) :
    s.walk 0 place (.name n :: rest) = .error .tooManyLinks := by
  rw [walk.eq_def, hdir]
  simp [Nat.not_lt.2 hn, he]

theorem walk_emptyLink {target : String} (hdir : s.root.at? place = some (.directory es))
    (hn : n.utf8ByteSize ≤ nameLimit) (he : es.lookup n = some (.link target)) (hempty : target.isEmpty = true) :
    s.walk (links + 1) place (.name n :: rest) = .error .notFound := by
  rw [walk.eq_def, hdir]
  simp [Nat.not_lt.2 hn, he, hempty]

/-! ## Where it goes on -/

theorem walk_root (hdir : s.root.at? place = some (.directory es)) :
    s.walk links place (.root :: rest) = s.walk links [] rest := by
  rw [walk.eq_def, hdir]

theorem walk_here (hdir : s.root.at? place = some (.directory es)) :
    s.walk links place (.here :: rest) = s.walk links place rest := by
  rw [walk.eq_def, hdir]

theorem walk_up (hdir : s.root.at? place = some (.directory es)) :
    s.walk links place (.up :: rest) = s.walk links place.dropLast rest := by
  rw [walk.eq_def, hdir]

/-- A link `n` stands for the steps of its `target`. -/
theorem walk_link {target : String} (hdir : s.root.at? place = some (.directory es))
    (hn : n.utf8ByteSize ≤ nameLimit) (he : es.lookup n = some (.link target)) (hne : target.isEmpty = false) :
    s.walk (links + 1) place (.name n :: rest) =
      s.walk links (if Path.isAbsolute target then [] else place) (Path.steps target ++ rest) := by
  rw [walk.eq_def, hdir]
  simp [Nat.not_lt.2 hn, he, hne]

/-- A name `n` that is no link is gone into. -/
theorem walk_down (hdir : s.root.at? place = some (.directory es)) (hn : n.utf8ByteSize ≤ nameLimit)
    (he : es.lookup n = some e) (hlink : ∀ target, e ≠ .link target) :
    s.walk links place (.name n :: rest) = s.walk links (place ++ [n]) rest := by
  rw [walk.eq_def, hdir]
  simp only [Nat.not_lt.2 hn, he, if_false]
  cases e with
  | link target => exact absurd rfl (hlink target)
  | _ => rfl

/-! ## Induction along a walk -/

/-- Induction along `walk`: one case for each of the equations above. -/
@[elab_as_elim]
theorem walk_induction {motive : Nat → Location → List Part → Prop}
    (missing : ∀ links place rest, s.root.at? place = none → motive links place rest)
    (found : ∀ links place e, s.root.at? place = some e → motive links place [])
    (notDirectory : ∀ links place e x rest, s.root.at? place = some e → (∀ es, e ≠ .directory es) →
      motive links place (x :: rest))
    (nameTooLong : ∀ links place es n rest, s.root.at? place = some (.directory es) → nameLimit < n.utf8ByteSize →
      motive links place (.name n :: rest))
    (absent : ∀ links place es n, s.root.at? place = some (.directory es) → n.utf8ByteSize ≤ nameLimit →
      es.lookup n = none → motive links place [.name n])
    (notFound : ∀ links place es n rest, s.root.at? place = some (.directory es) → n.utf8ByteSize ≤ nameLimit →
      es.lookup n = none → rest ≠ [] → motive links place (.name n :: rest))
    (tooManyLinks : ∀ place es n rest target, s.root.at? place = some (.directory es) → n.utf8ByteSize ≤ nameLimit →
      es.lookup n = some (.link target) → motive 0 place (.name n :: rest))
    (emptyLink : ∀ links place es n rest target, s.root.at? place = some (.directory es) →
      n.utf8ByteSize ≤ nameLimit → es.lookup n = some (.link target) → target.isEmpty = true →
      motive (links + 1) place (.name n :: rest))
    (root : ∀ links place es rest, s.root.at? place = some (.directory es) → motive links [] rest →
      motive links place (.root :: rest))
    (here : ∀ links place es rest, s.root.at? place = some (.directory es) → motive links place rest →
      motive links place (.here :: rest))
    (up : ∀ links place es rest, s.root.at? place = some (.directory es) → motive links place.dropLast rest →
      motive links place (.up :: rest))
    (link : ∀ links place es n rest target, s.root.at? place = some (.directory es) → n.utf8ByteSize ≤ nameLimit →
      es.lookup n = some (.link target) → target.isEmpty = false →
      motive links (if Path.isAbsolute target then [] else place) (Path.steps target ++ rest) →
      motive (links + 1) place (.name n :: rest))
    (down : ∀ links place es n rest e, s.root.at? place = some (.directory es) → n.utf8ByteSize ≤ nameLimit →
      es.lookup n = some e → (∀ target, e ≠ .link target) → motive links (place ++ [n]) rest →
      motive links place (.name n :: rest))
    (links : Nat) (place : Location) (rest : List Part) : motive links place rest := by
  induction links, place, rest using walk.induct (s := s) with
  | case1 links place rest hnone => exact missing links place rest hnone
  | case2 links place e he => exact found links place e he
  | case3 links place es rest hdir ih => exact root links place es rest hdir ih
  | case4 links place es rest hdir ih => exact here links place es rest hdir ih
  | case5 links place es rest hdir ih => exact up links place es rest hdir ih
  | case6 links place es n rest hdir hlong => exact nameTooLong links place es n rest hdir hlong
  | case7 links place es n rest hdir hn he hrest =>
    cases List.isEmpty_iff.1 hrest
    exact absent links place es n hdir (Nat.not_lt.1 hn) he
  | case8 links place es n rest hdir hn he hrest =>
    exact notFound links place es n rest hdir (Nat.not_lt.1 hn) he fun h => hrest (List.isEmpty_iff.2 h)
  | case9 place es n rest hdir hn target he =>
    exact tooManyLinks place es n rest target hdir (Nat.not_lt.1 hn) he
  | case10 place es n rest hdir hn target links he hempty =>
    exact emptyLink links place es n rest target hdir (Nat.not_lt.1 hn) he hempty
  | case11 place es n rest hdir hn target links he hempty ih =>
    exact link links place es n rest target hdir (Nat.not_lt.1 hn) he (by simpa using hempty) ih
  | case12 place es n rest hdir hn e links h0 hsucc he ih =>
    refine down links place es n rest e hdir (Nat.not_lt.1 hn) he (fun target heq => ?_) ih
    -- the match tells links apart from other entries once with none left to follow and once with some
    cases links with
    | zero => exact h0 target rfl heq
    | succ links => exact hsucc target links rfl heq
  | case13 links place e x rest hroot hhere hup hname he =>
    refine notDirectory links place e x rest he fun es hes => ?_
    cases x with
    | root => exact hroot es hes rfl
    | here => exact hhere es hes rfl
    | up => exact hup es hes rfl
    | name n => exact hname es n hes rfl

end DatasetLint.Files.FileSystem
