import DatasetLint.Proofs.Files.Steps

/-!
# What is written to a path is read from it

A file that is put at a place changes no other place, so the way that a path took to the place is still there:
the same path leads to the new content.
-/

namespace DatasetLint.Files

/-! ## Places -/

/-- What the way along a path asks of an entry. -/
inductive Shape where
  | file
  | link (target : String)
  | directory

namespace Entry

def shape : Entry → Shape
  | file _ => .file
  | link t => .link t
  | directory _ => .directory

theorem shape_eq_link_iff {e : Entry} {t : String} : e.shape = .link t ↔ e = .link t := by
  cases e <;> simp [shape]

section

variable {es es' : List (String × Entry)} {n : String}
  (h : (es'.lookup n).map shape = (es.lookup n).map shape)

include h

private theorem lookup_link_of_shape {t : String} (he : es.lookup n = some (.link t)) :
    es'.lookup n = some (.link t) := by
  rw [he] at h
  obtain ⟨e, he', hshape⟩ := Option.map_eq_some_iff.1 h
  rw [he', shape_eq_link_iff.1 hshape]

private theorem exists_not_link_of_shape {e : Entry} (he : es.lookup n = some e) (hlink : ∀ t, e ≠ .link t) :
    ∃ e', es'.lookup n = some e' ∧ ∀ t, e' ≠ .link t := by
  rw [he] at h
  obtain ⟨e', he', hshape⟩ := Option.map_eq_some_iff.1 h
  refine ⟨e', he', fun t ht => hlink t (shape_eq_link_iff.1 ?_)⟩
  rw [← hshape, ht, shape]

end

/-- The entries of a directory, none of anything else. -/
def entries : Entry → List (String × Entry)
  | directory es => es
  | _ => []

theorem at?_cons (e : Entry) (n : String) (ns : Location) :
    e.at? (n :: ns) = (e.entries.lookup n).bind (at? · ns) := by
  cases e <;> rfl

theorem at?_append (e : Entry) (p : Location) (n : String) :
    e.at? (p ++ [n]) = (e.at? p).bind (·.entries.lookup n) := by
  induction p generalizing e with
  | nil =>
    rw [List.nil_append, at?_cons, at?, Option.bind_some]
    cases e.entries.lookup n with
    | none => rfl
    | some f => cases f <;> rfl
  | cons m p ih =>
    rw [List.cons_append, at?_cons, at?_cons]
    cases e.entries.lookup m with
    | none => rfl
    | some f => exact ih f

theorem lookup_alter_self (n : String) (change : Option Entry → Entry) (es : List (String × Entry)) :
    (alter n change es).lookup n = some (change (es.lookup n)) := by
  induction es with
  | nil => rw [alter, List.lookup_cons_self]; rfl
  | cons e es ih =>
    obtain ⟨m, f⟩ := e
    rw [alter]
    split
    · rename_i h
      rw [h, List.lookup_cons_self, List.lookup_cons_self]
    · rename_i h
      have hne : (n == m) = false := beq_eq_false_iff_ne.2 fun h' => h h'.symm
      rw [List.lookup_cons, List.lookup_cons, hne]
      exact ih

theorem lookup_alter_of_ne {n m : String} (h : m ≠ n) (change : Option Entry → Entry) (es : List (String × Entry)) :
    (alter n change es).lookup m = es.lookup m := by
  induction es with
  | nil =>
    rw [alter, List.lookup_cons, beq_eq_false_iff_ne.2 h]
  | cons e es ih =>
    rw [alter]
    split
    · rename_i h'
      have hne : (m == e.1) = false := beq_eq_false_iff_ne.2 (h' ▸ h)
      rw [List.lookup_cons, List.lookup_cons, hne]
    · rw [List.lookup_cons, List.lookup_cons, ih]

/-- A `place` at which a file can be put: that of a file or link, or a name that its directory does not have. -/
def CanHold (e : Entry) (place : Location) : Prop :=
  (∃ old, e.at? place = some old ∧ old.shape ≠ .directory) ∨
    (e.at? place = none ∧ ∃ p n es, place = p ++ [n] ∧ e.at? p = some (.directory es))

/-- Above a place that `CanHold` a file there are directories. -/
theorem CanHold.cons_inv {e : Entry} {n : String} {ns : Location} (h : e.CanHold (n :: ns)) :
    ∃ es, e = directory es ∧ (∀ f, es.lookup n = some f → f.CanHold ns) ∧ (es.lookup n = none → ns = []) := by
  cases e with
  | file c =>
    rcases h with ⟨old, hold, -⟩ | ⟨-, p, m, es, hp, hdir⟩
    · cases hold
    · cases p <;> cases hdir
  | link t =>
    rcases h with ⟨old, hold, -⟩ | ⟨-, p, m, es, hp, hdir⟩
    · cases hold
    · cases p <;> cases hdir
  | directory es =>
    refine ⟨es, rfl, fun f hf => ?_, fun hnone => ?_⟩
    · rw [CanHold, at?_cons, entries, hf, Option.bind_some] at h
      rcases h with h | ⟨hnone, p, m, es', hp, hdir⟩
      · exact .inl h
      · refine .inr ⟨hnone, ?_⟩
        cases p with
        | nil =>
          cases hp
          cases hnone
        | cons k p =>
          cases hp
          rw [at?_cons, entries, hf] at hdir
          exact ⟨p, m, es', rfl, hdir⟩
    · rw [CanHold, at?_cons, entries, hnone] at h
      rcases h with ⟨old, hold, -⟩ | ⟨-, p, m, es', hp, hdir⟩
      · cases hold
      · cases p with
        | nil =>
          cases hp
          rfl
        | cons k p =>
          cases hp
          rw [at?_cons, entries, hnone] at hdir
          cases hdir

/-- A file that is put at `place` is there. -/
theorem at?_put {e : Entry} {place : Location} (h : e.CanHold place) (c : ByteArray) :
    (e.put place (.file c)).at? place = some (.file c) := by
  induction place generalizing e with
  | nil =>
    cases e <;> rfl
  | cons n ns ih =>
    obtain ⟨es, rfl, hsome, hnone⟩ := h.cons_inv
    rw [put, at?_cons, entries, lookup_alter_self, Option.bind_some]
    cases hlookup : es.lookup n with
    | some f => exact ih (hsome f hlookup)
    | none =>
      rw [hnone hlookup]
      rfl

/-- Every place `q` other than `place` keeps what it had. -/
theorem shape_at?_put {e : Entry} {place q : Location} (h : e.CanHold place) (hq : q ≠ place) (c : ByteArray) :
    ((e.put place (.file c)).at? q).map shape = (e.at? q).map shape := by
  induction place generalizing e q with
  | nil =>
    obtain ⟨m, ms, rfl⟩ := List.exists_cons_of_ne_nil hq
    rcases h with ⟨old, hold, hshape⟩ | ⟨hnone, -⟩
    · cases e with
      | directory es =>
        cases hold
        exact absurd rfl hshape
      | _ => rfl
    · cases e <;> cases hnone
  | cons n ns ih =>
    obtain ⟨es, rfl, hsome, hnone⟩ := h.cons_inv
    cases q with
    | nil => rfl
    | cons m ms =>
      rw [put, at?_cons, at?_cons, entries, entries]
      -- another name leads past the place, and the same name one step down to it
      by_cases hm : m = n
      · subst hm
        have hms : ms ≠ ns := fun heq => hq (by rw [heq])
        rw [lookup_alter_self, Option.bind_some]
        cases hlookup : es.lookup m with
        | some f => exact ih (hsome f hlookup) hms
        | none =>
          rw [hnone hlookup] at hms ⊢
          obtain ⟨k, ks, rfl⟩ := List.exists_cons_of_ne_nil hms
          rfl
      · rw [lookup_alter_of_ne hm]

end Entry

/-- Whether the tree `root` has what a target says. -/
def Target.IsIn (root : Entry) : Target → Prop
  | .found p e => root.at? p = some e
  | .absent p => root.at? p = none ∧ ∃ q n es, p = q ++ [n] ∧ root.at? q = some (.directory es)

namespace FileSystem

/-- A way along some parts of a path that does not fail. -/
inductive Leads (s : FileSystem) : Nat → Location → List Part → Target → Prop
  | found {links : Nat} {place : Location} {e : Entry} (he : s.root.at? place = some e) :
    Leads s links place [] (.found place e)
  | absent {links : Nat} {place : Location} {es : List (String × Entry)} {n : String}
    (hdir : s.root.at? place = some (.directory es)) (hn : n.utf8ByteSize ≤ nameLimit) (he : es.lookup n = none) :
    Leads s links place [.name n] (.absent (place ++ [n]))
  | root {links : Nat} {place : Location} {es : List (String × Entry)} {rest : List Part} {t : Target}
    (hdir : s.root.at? place = some (.directory es)) (h : Leads s links [] rest t) :
    Leads s links place (.root :: rest) t
  | here {links : Nat} {place : Location} {es : List (String × Entry)} {rest : List Part} {t : Target}
    (hdir : s.root.at? place = some (.directory es)) (h : Leads s links place rest t) :
    Leads s links place (.here :: rest) t
  | up {links : Nat} {place : Location} {es : List (String × Entry)} {rest : List Part} {t : Target}
    (hdir : s.root.at? place = some (.directory es)) (h : Leads s links place.dropLast rest t) :
    Leads s links place (.up :: rest) t
  | link {links : Nat} {place : Location} {es : List (String × Entry)} {n : String} {rest : List Part} {t : Target}
    {target : String} (hdir : s.root.at? place = some (.directory es)) (hn : n.utf8ByteSize ≤ nameLimit)
    (he : es.lookup n = some (.link target)) (hne : target.isEmpty = false)
    (h : Leads s links (if Path.isAbsolute target then [] else place) (Path.steps target ++ rest) t) :
    Leads s (links + 1) place (.name n :: rest) t
  | down {links : Nat} {place : Location} {es : List (String × Entry)} {n : String} {rest : List Part} {t : Target}
    {e : Entry} (hdir : s.root.at? place = some (.directory es)) (hn : n.utf8ByteSize ≤ nameLimit)
    (he : es.lookup n = some e) (hlink : ∀ target, e ≠ .link target) (h : Leads s links (place ++ [n]) rest t) :
    Leads s links place (.name n :: rest) t

theorem leads_of_walk {s : FileSystem} {links : Nat} {place : Location} {rest : List Part} {t : Target}
    (h : s.walk links place rest = .ok t) : s.Leads links place rest t := by
  induction links, place, rest using walk_induction (s := s) with
  | missing links place rest hnone =>
    rw [walk_missing hnone] at h
    cases h
  | found links place e he =>
    rw [walk_found he] at h
    cases h
    exact .found he
  | notDirectory links place e x rest he hnot =>
    rw [walk_notDirectory he hnot] at h
    cases h
  | nameTooLong links place es n rest hdir hn =>
    rw [walk_nameTooLong hdir hn] at h
    cases h
  | absent links place es n hdir hn he =>
    rw [walk_absent hdir hn he] at h
    cases h
    exact .absent hdir hn he
  | notFound links place es n rest hdir hn he hrest =>
    rw [walk_notFound hdir hn he hrest] at h
    cases h
  | tooManyLinks place es n rest target hdir hn he =>
    rw [walk_tooManyLinks hdir hn he] at h
    cases h
  | emptyLink links place es n rest target hdir hn he hempty =>
    rw [walk_emptyLink hdir hn he hempty] at h
    cases h
  | root links place es rest hdir ih => exact .root hdir (ih (walk_root hdir ▸ h))
  | here links place es rest hdir ih => exact .here hdir (ih (walk_here hdir ▸ h))
  | up links place es rest hdir ih => exact .up hdir (ih (walk_up hdir ▸ h))
  | link links place es n rest target hdir hn he hne ih =>
    exact .link hdir hn he hne (ih (walk_link hdir hn he hne ▸ h))
  | down links place es n rest e hdir hn he hlink ih =>
    exact .down hdir hn he hlink (ih (walk_down hdir hn he hlink ▸ h))

theorem Leads.walk_eq {s : FileSystem} {links : Nat} {place : Location} {rest : List Part} {t : Target}
    (h : s.Leads links place rest t) : s.walk links place rest = .ok t := by
  induction h with
  | found he => exact walk_found he
  | absent hdir hn he => exact walk_absent hdir hn he
  | root hdir _ ih => rw [walk_root hdir, ih]
  | here hdir _ ih => rw [walk_here hdir, ih]
  | up hdir _ ih => rw [walk_up hdir, ih]
  | link hdir hn he hne _ ih => rw [walk_link hdir hn he hne, ih]
  | down hdir hn he hlink _ ih => rw [walk_down hdir hn he hlink, ih]

theorem Leads.isIn {s : FileSystem} {links : Nat} {place : Location} {rest : List Part} {t : Target}
    (h : s.Leads links place rest t) : t.IsIn s.root := by
  induction h with
  | found he => exact he
  | @absent links place es n hdir hn he =>
    refine ⟨?_, place, n, es, rfl, hdir⟩
    rw [Entry.at?_append, hdir]
    exact he
  | root _ _ ih => exact ih
  | here _ _ ih => exact ih
  | up _ _ ih => exact ih
  | link _ _ _ _ _ ih => exact ih
  | down _ _ _ _ _ ih => exact ih

/-- Above a directory at `place` there is one, and at the root. -/
theorem directory_above {e : Entry} {place : Location} {es : List (String × Entry)}
    (h : e.at? place = some (.directory es)) : (∃ fs, e.at? [] = some (.directory fs)) ∧
      ∃ fs, e.at? place.dropLast = some (.directory fs) := by
  refine ⟨?_, ?_⟩
  · cases place with
    | nil => exact ⟨es, h⟩
    | cons n ns =>
      cases e with
      | directory fs => exact ⟨fs, rfl⟩
      | _ => cases h
  · rcases List.eq_nil_or_concat place with rfl | ⟨p, n, rfl⟩
    · exact ⟨es, h⟩
    · rw [List.concat_eq_append, Entry.at?_append] at h
      rw [List.concat_eq_append, List.dropLast_concat]
      cases hp : e.at? p with
      | none =>
        rw [hp] at h
        cases h
      | some f =>
        rw [hp] at h
        cases f with
        | directory fs => exact ⟨fs, rfl⟩
        | _ => cases h

/-- No way that begins at something else than a link leads to a link `e`. -/
theorem Leads.not_link {s : FileSystem} {links : Nat} {place p : Location} {rest : List Part} {e : Entry}
    (h : s.Leads links place rest (.found p e)) (hplace : rest = [] → ∀ t, s.root.at? place ≠ some (.link t)) :
    ∀ t, e ≠ .link t := by
  have hdirectory : ∀ {q : Location}, (∃ fs, s.root.at? q = some (.directory fs)) →
      ∀ t, s.root.at? q ≠ some (.link t) := by
    rintro q ⟨fs, hq⟩ t ht
    rw [hq] at ht
    cases ht
  generalize ht : Target.found p e = t at h
  -- a link is replaced by its target, so no step ends at one
  induction h with
  | found he =>
    cases ht
    rintro t rfl
    exact hplace rfl t he
  | absent => cases ht
  | root hdir _ ih => exact ih (fun _ => hdirectory (directory_above hdir).1) ht
  | here hdir _ ih => exact ih (fun _ => hdirectory ⟨_, hdir⟩) ht
  | up hdir _ ih => exact ih (fun _ => hdirectory (directory_above hdir).2) ht
  | link hdir _ _ _ _ ih =>
    refine ih (fun _ => ?_) ht
    split
    · exact hdirectory (directory_above hdir).1
    · exact hdirectory ⟨_, hdir⟩
  | down hdir _ he hlink _ ih =>
    refine ih (fun _ t => ?_) ht
    rw [Entry.at?_append, hdir, Option.bind_some, Entry.entries, he]
    exact fun heq => hlink t (Option.some.inj heq)

/-! ## Ways to a written file -/

section Put

variable {s : FileSystem} {target : Location} (hcan : s.root.CanHold target) (c : ByteArray)

include hcan

/-- A directory on the way is still there, with what it had under every name `n` but that of the file. -/
theorem directory_put {place : Location} {es : List (String × Entry)}
    (hdir : s.root.at? place = some (.directory es)) : ∃ es',
      (s.put target (.file c)).root.at? place = some (.directory es') ∧
      (∀ n, place ++ [n] ≠ target → (es'.lookup n).map Entry.shape = (es.lookup n).map Entry.shape) ∧
      ∀ n, place ++ [n] = target → es'.lookup n = some (.file c) := by
  -- no file is put where a directory is
  have hne : place ≠ target := by
    rintro rfl
    rcases hcan with ⟨old, hold, hshape⟩ | ⟨hnone, -⟩
    · rw [hdir] at hold
      cases hold
      exact hshape rfl
    · rw [hdir] at hnone
      cases hnone
  have hshape := Entry.shape_at?_put hcan hne c
  rw [hdir] at hshape
  obtain ⟨e, he, heq⟩ := Option.map_eq_some_iff.1 hshape
  cases e with
  | directory es' =>
    have hlookup : ∀ n, es'.lookup n = (s.root.put target (.file c)).at? (place ++ [n]) := by
      intro n
      rw [Entry.at?_append, he]
      rfl
    refine ⟨es', he, fun n hn => ?_, fun n hn => ?_⟩
    · rw [hlookup, Entry.shape_at?_put hcan hn, Entry.at?_append, hdir]
      rfl
    · rw [hlookup, hn]
      exact Entry.at?_put hcan c
  | file _ => cases heq
  | link _ => cases heq

/-- A way to the place `target`, which is no directory and no link, leads to the file that is put there. -/
theorem Leads.put (hlink : ∀ t, s.root.at? target ≠ some (.link t)) {links : Nat} {place : Location}
    {rest : List Part} {t : Target} (h : s.Leads links place rest t)
    (ht : t = .absent target ∨ ∃ old, t = .found target old) :
    (s.put target (.file c)).Leads links place rest (.found target (.file c)) := by
  induction h with
  | @found links place e he =>
    rcases ht with ht | ⟨old, ht⟩ <;> cases ht
    exact .found (Entry.at?_put hcan c)
  | @absent links place es n hdir hn he =>
    rcases ht with ht | ⟨old, ht⟩ <;> cases ht
    obtain ⟨es', hdir', -, hsame⟩ := directory_put hcan c hdir
    exact .down hdir' hn (hsame n rfl) (fun _ h => nomatch h) (.found (Entry.at?_put hcan c))
  | root hdir _ ih =>
    obtain ⟨es', hdir', -⟩ := directory_put hcan c hdir
    exact .root hdir' (ih ht)
  | here hdir _ ih =>
    obtain ⟨es', hdir', -⟩ := directory_put hcan c hdir
    exact .here hdir' (ih ht)
  | up hdir _ ih =>
    obtain ⟨es', hdir', -⟩ := directory_put hcan c hdir
    exact .up hdir' (ih ht)
  | @link links place es n rest t name hdir hn he hne _ ih =>
    obtain ⟨es', hdir', hother, -⟩ := directory_put hcan c hdir
    -- a link on the way is not what the file replaces
    have htarget : place ++ [n] ≠ target := by
      rintro rfl
      refine hlink name ?_
      rw [Entry.at?_append, hdir]
      exact he
    exact .link hdir' hn (Entry.lookup_link_of_shape (hother n htarget) he) hne (ih ht)
  | @down links place es n rest t e hdir hn he hnl _ ih =>
    obtain ⟨es', hdir', hother, hsame⟩ := directory_put hcan c hdir
    -- the file may already be there, and then the way ends with it
    by_cases htarget : place ++ [n] = target
    · exact .down hdir' hn (hsame n htarget) (fun _ h => nomatch h) (ih ht)
    · obtain ⟨e', he', hnl'⟩ := Entry.exists_not_link_of_shape (hother n htarget) he hnl
      exact .down hdir' hn he' hnl' (ih ht)

end Put

private theorem resolve_put {s : FileSystem} {path : String} {t : Target} {target : Location} {c : ByteArray}
    (hpath : s.resolve path = .ok t) (h : ∀ place rest, s.Leads linkLimit place rest t →
      (s.put target (.file c)).Leads linkLimit place rest (.found target (.file c))) :
    (s.put target (.file c)).resolve path = .ok (.found target (.file c)) := by
  rw [resolve] at hpath ⊢
  split at hpath
  · cases hpath
  · rename_i hempty
    split at hpath
    · cases hpath
    · rename_i hzero
      split at hpath
      · cases hpath
      · rename_i hlong
        rw [if_neg hempty, if_neg hzero, if_neg hlong]
        exact (h _ _ (leads_of_walk hpath)).walk_eq

/-- What is written to `path` is read from it. -/
theorem read_write {s s' : FileSystem} {path : String} {c : ByteArray} (h : s.write path c = .ok s') :
    s'.read path = .ok c := by
  have hresolve : ∃ target, s'.resolve path = .ok (.found target (.file c)) := by
    rw [write] at h
    split at h
    · cases h
    · cases h
    · rename_i p e hdirectory hpath
      cases h
      refine ⟨p, resolve_put hpath fun place rest hleads => ?_⟩
      have hin : s.root.at? p = some e := hleads.isIn
      have hcan : s.root.CanHold p := by
        refine .inl ⟨e, hin, fun hshape => ?_⟩
        cases e with
        | directory es => exact hdirectory es rfl
        | _ => cases hshape
      -- an empty path leads to where it begins, whatever is there
      by_cases hrest : rest = []
      · subst hrest
        cases hleads
        exact .found (Entry.at?_put hcan c)
      · refine hleads.put hcan c (fun t ht => ?_) (.inr ⟨e, rfl⟩)
        rw [hin] at ht
        exact hleads.not_link (fun hnil => absurd hnil hrest) t (Option.some.inj ht)
    · rename_i p hpath
      cases h
      refine ⟨p, resolve_put hpath fun place rest hleads => ?_⟩
      have hin : s.root.at? p = none ∧ _ := hleads.isIn
      refine hleads.put (.inr hin) c (fun t ht => ?_) (.inl rfl)
      rw [hin.1] at ht
      cases ht
  obtain ⟨target, hresolve⟩ := hresolve
  rw [read, entry, hresolve]

end FileSystem

end DatasetLint.Files
