import DatasetLint.Proofs.Files.Below

/-!
# A file that is added

A new file, with the directories on the way to it that are missing, leaves everything else where it is. So a
path that leads to something leads there still, and a path that fails on its way fails in the same way, unless
it failed only because something was missing.
-/

namespace DatasetLint.Files

namespace Entry

/-- A place for something new: nothing is there, and what is on the way are directories. -/
def CanAdd : Entry → Location → Prop
  | directory es, n :: ns => ∀ e, es.lookup n = some e → e.CanAdd ns
  | _, _ => False

/-- What an entry can become when something is added elsewhere: a directory may get more entries. -/
inductive Grows : Entry → Entry → Prop
  | same (e : Entry) : Grows e e
  | directory (es fs : List (String × Entry)) : Grows (.directory es) (.directory fs)

theorem Grows.link_iff {e f : Entry} (h : e.Grows f) (t : String) : f = .link t ↔ e = .link t := by
  cases h with
  | same => exact Iff.rfl
  | directory => exact iff_of_false nofun nofun

variable {e new : Entry}

theorem canAdd_empty (n : String) (ns : Location) : (directory []).CanAdd (n :: ns) := by
  rw [CanAdd]
  exact nofun

theorem not_canAdd_nil (e : Entry) : ¬e.CanAdd [] := by
  cases e <;> exact id

theorem CanAdd.exists_directory {place : Location} (h : e.CanAdd place) :
    ∃ es n ns, e = directory es ∧ place = n :: ns := by
  cases e with
  | directory es =>
    cases place with
    | nil => exact h.elim
    | cons n ns => exact ⟨es, n, ns, rfl, rfl⟩
  | file c => cases place <;> exact h.elim
  | link t => cases place <;> exact h.elim

/-- What can be added at `p ++ ns` can be added at `ns` below the entry `f` at `p`. -/
theorem CanAdd.below {p ns : Location} (h : e.CanAdd (p ++ ns)) {f : Entry} (hf : e.at? p = some f) :
    f.CanAdd ns ∧ (e.put (p ++ ns) new).at? p = some (f.put ns new) := by
  induction p generalizing e with
  | nil =>
    cases hf
    exact ⟨h, by rw [at?]; rfl⟩
  | cons n p ih =>
    obtain ⟨es, m, ms, rfl, hplace⟩ := h.exists_directory
    rw [at?_cons, entries] at hf
    obtain ⟨g, hg, hf⟩ := Option.bind_eq_some_iff.1 hf
    rw [List.cons_append, CanAdd] at h
    obtain ⟨hadd, hat⟩ := ih (h g hg) hf
    refine ⟨hadd, ?_⟩
    rw [List.cons_append, put, at?_cons, entries, lookup_alter_self, hg]
    exact hat

/-- What can be added below the entry `f` at `p` can be added from further up. -/
theorem CanAdd.above {p ns : Location} {f : Entry} (hf : e.at? p = some f) (h : f.CanAdd ns) :
    e.CanAdd (p ++ ns) := by
  induction p generalizing e with
  | nil =>
    cases hf
    exact h
  | cons n p ih =>
    cases e with
    | directory es =>
      rw [at?_cons, entries] at hf
      obtain ⟨g, hg, hf⟩ := Option.bind_eq_some_iff.1 hf
      rw [List.cons_append, CanAdd]
      intro e he
      cases hg.symm.trans he
      exact ih hf
    | file c => cases hf
    | link t => cases hf

/-- What was at `q` is still there, and at most grows. -/
theorem CanAdd.grows {place : Location} (h : e.CanAdd place) (new : Entry) {q : Location} {f : Entry}
    (hf : e.at? q = some f) :
    ∃ g, (e.put place new).at? q = some g ∧ f.Grows g := by
  induction place generalizing e q with
  | nil =>
    obtain ⟨_, _, _, _, ⟨⟩⟩ := h.exists_directory
  | cons n ns ih =>
    obtain ⟨es, _, _, rfl, -⟩ := h.exists_directory
    cases q with
    | nil =>
      cases hf
      exact ⟨_, rfl, .directory _ _⟩
    | cons m ms =>
      rw [at?_cons, entries] at hf
      rw [put, at?_cons, entries]
      -- only under the first name of the place can something change
      by_cases hm : m = n
      · subst hm
        obtain ⟨g, hg, hf⟩ := Option.bind_eq_some_iff.1 hf
        rw [CanAdd] at h
        rw [lookup_alter_self, hg]
        exact ih (h g hg) hf
      · rw [lookup_alter_of_ne hm]
        exact ⟨f, hf, .same f⟩

/-- What is added at `place` is there. -/
theorem CanAdd.at?_put {place : Location} (h : e.CanAdd place) (new : Entry) : (e.put place new).at? place = some new := by
  induction place generalizing e with
  | nil =>
    obtain ⟨_, _, _, _, ⟨⟩⟩ := h.exists_directory
  | cons n ns ih =>
    obtain ⟨es, _, _, rfl, -⟩ := h.exists_directory
    rw [put, at?_cons, entries, lookup_alter_self, Option.bind_some]
    cases hn : es.lookup n with
    | some f =>
      rw [CanAdd] at h
      exact ih (h f hn)
    | none =>
      cases ns with
      | nil => exact Entry.at?.eq_1 _
      | cons m ms => exact ih (canAdd_empty m ms)

end Entry

namespace FileSystem

/-! ## Paths in the larger tree -/

/-- What a path leads to in a tree is `r`, and next to it in a larger one `r'`. -/
def Persists (r r' : Except FileFault Target) : Prop :=
  match r with
  | .ok (.found p e) => ∃ f, r' = .ok (.found p f) ∧ e.Grows f
  | .ok (.absent _) => True
  | .error e => e ≠ .notFound → r' = .error e

/-- The link `n` to `name` stays the link that it is. -/
theorem lookup_link {es fs : List (String × Entry)}
    (hkept : ∀ n e, es.lookup n = some e → ∃ f, fs.lookup n = some f ∧ e.Grows f) {n name : String}
    (h : es.lookup n = some (.link name)) : fs.lookup n = some (.link name) := by
  obtain ⟨f, hf, hgrows⟩ := hkept n _ h
  rwa [(hgrows.link_iff name).2 rfl] at hf

variable {s : FileSystem} {target : Location} (hadd : s.root.CanAdd target) (new : Entry)

include hadd

private theorem directory_of_canAdd {place : Location} {es : List (String × Entry)}
    (hdir : s.root.at? place = some (.directory es)) : ∃ fs,
      (s.put target new).root.at? place = some (.directory fs) ∧
        ∀ n e, es.lookup n = some e → ∃ f, fs.lookup n = some f ∧ e.Grows f := by
  obtain ⟨g, hg, hgrows⟩ := hadd.grows new hdir
  have hdirectory : ∃ fs, g = .directory fs := by
    cases hgrows with
    | same => exact ⟨es, rfl⟩
    | directory _ fs => exact ⟨fs, rfl⟩
  obtain ⟨fs, rfl⟩ := hdirectory
  refine ⟨fs, hg, fun n e he => ?_⟩
  have hat : s.root.at? (place ++ [n]) = some e := by
    rw [Entry.at?_append, hdir]
    exact he
  obtain ⟨f, hf, hgrows⟩ := hadd.grows new hat
  refine ⟨f, ?_, hgrows⟩
  have hlookup : (s.put target new).root.at? (place ++ [n]) = fs.lookup n := by
    rw [Entry.at?_append, put, hg]
    rfl
  rw [← hlookup]
  exact hf

/-- Along a path the larger tree is met in the same way, up to where something was missing. -/
theorem walk_persists (links : Nat) (place : Location) (rest : List Part) :
    Persists (s.walk links place rest) ((s.put target new).walk links place rest) := by
  -- a step that ends at something missing promises nothing of the larger tree
  induction links, place, rest using walk_induction (s := s) with
  | missing links place rest hnone =>
    rw [walk_missing hnone]
    exact fun h => absurd rfl h
  | found links place e he =>
    obtain ⟨f, hf, hgrows⟩ := hadd.grows new he
    rw [walk_found he]
    exact ⟨f, walk_found hf, hgrows⟩
  | notDirectory links place e x rest he hnot =>
    obtain ⟨f, hf, hgrows⟩ := hadd.grows new he
    rw [walk_notDirectory he hnot]
    cases hgrows with
    | same => exact fun _ => walk_notDirectory hf hnot
    | directory es => exact absurd rfl (hnot es)
  | nameTooLong links place es n rest hdir hn =>
    obtain ⟨fs, hdir', -⟩ := directory_of_canAdd hadd new hdir
    rw [walk_nameTooLong hdir hn]
    exact fun _ => walk_nameTooLong hdir' hn
  | absent links place es n hdir hn he =>
    rw [walk_absent hdir hn he]
    trivial
  | notFound links place es n rest hdir hn he hrest =>
    rw [walk_notFound hdir hn he hrest]
    exact fun h => absurd rfl h
  | tooManyLinks place es n rest name hdir hn he =>
    obtain ⟨fs, hdir', hkept⟩ := directory_of_canAdd hadd new hdir
    rw [walk_tooManyLinks hdir hn he]
    exact fun _ => walk_tooManyLinks hdir' hn (lookup_link hkept he)
  | emptyLink links place es n rest name hdir hn he hempty =>
    rw [walk_emptyLink hdir hn he hempty]
    exact fun h => absurd rfl h
  | root links place es rest hdir ih =>
    obtain ⟨fs, hdir', -⟩ := directory_of_canAdd hadd new hdir
    rwa [walk_root hdir, walk_root hdir']
  | here links place es rest hdir ih =>
    obtain ⟨fs, hdir', -⟩ := directory_of_canAdd hadd new hdir
    rwa [walk_here hdir, walk_here hdir']
  | up links place es rest hdir ih =>
    obtain ⟨fs, hdir', -⟩ := directory_of_canAdd hadd new hdir
    rwa [walk_up hdir, walk_up hdir']
  | link links place es n rest name hdir hn he hne ih =>
    obtain ⟨fs, hdir', hkept⟩ := directory_of_canAdd hadd new hdir
    rwa [walk_link hdir hn he hne, walk_link hdir' hn (lookup_link hkept he) hne]
  | down links place es n rest e hdir hn he hlink ih =>
    obtain ⟨fs, hdir', hkept⟩ := directory_of_canAdd hadd new hdir
    obtain ⟨f, hf, hgrows⟩ := hkept n e he
    have hlink' : ∀ name, f ≠ .link name := fun name h => hlink name ((hgrows.link_iff name).1 h)
    rwa [walk_down hdir hn he hlink, walk_down hdir' hn hf hlink']

private theorem resolve_persists (path : String) : Persists (s.resolve path) ((s.put target new).resolve path) := by
  rw [resolve, resolve]
  split
  · exact fun h => absurd rfl h
  · split
    · exact fun _ => rfl
    · split
      · exact fun _ => rfl
      · exact walk_persists hadd new ..

omit hadd in
/-- A `path` to a directory leads to it still when something is added below. -/
theorem resolve_put_below {path : String} {place names : Location} {es : List (String × Entry)}
    (hpath : s.resolve path = .ok (.found place (.directory es))) (hadd : (Entry.directory es).CanAdd names) :
    s.root.CanAdd (place ++ names) ∧ (s.put (place ++ names) new).resolve path =
      .ok (.found place ((Entry.directory es).put names new)) := by
  have hdir : s.root.at? place = some (.directory es) := (resolve_eq_ok_iff.1 hpath).2.2.2.isIn
  have habove : s.root.CanAdd (place ++ names) := .above hdir hadd
  have hpersists := resolve_persists habove new path
  rw [hpath] at hpersists
  obtain ⟨f, hf, -⟩ := hpersists
  have hat : (s.put (place ++ names) new).root.at? place = some f := (resolve_eq_ok_iff.1 hf).2.2.2.isIn
  have hput : (s.put (place ++ names) new).root.at? place = some ((Entry.directory es).put names new) :=
    (habove.below hdir).2
  cases hput.symm.trans hat
  exact ⟨habove, hf⟩

/-- A `path` leads to what it led to, if it does not lead to something now that was missing. -/
theorem entry_persists {path : String} (hmissing : s.entry path = .error .notFound →
    (s.put target new).entry path = .error .notFound) :
    (∃ e f, s.entry path = .ok e ∧ (s.put target new).entry path = .ok f ∧ e.Grows f) ∨
      ∃ e, s.entry path = .error e ∧ (s.put target new).entry path = .error e := by
  have hpersists := resolve_persists hadd new path
  cases hresolve : s.resolve path with
  | error e =>
    have hentry : s.entry path = .error e := by rw [entry, hresolve]
    -- of a path that fails because something is missing the larger tree promises nothing
    by_cases he : e = .notFound
    · subst he
      exact .inr ⟨_, hentry, hmissing hentry⟩
    · rw [hresolve] at hpersists
      refine .inr ⟨e, hentry, ?_⟩
      rw [entry, hpersists he]
  | ok t =>
    cases t with
    | absent p =>
      have hentry : s.entry path = .error .notFound := by rw [entry, hresolve]
      exact .inr ⟨_, hentry, hmissing hentry⟩
    | found p e =>
      rw [hresolve] at hpersists
      obtain ⟨f, hf, hgrows⟩ := hpersists
      refine .inl ⟨e, f, ?_, ?_, hgrows⟩
      · rw [entry, hresolve]
      · rw [entry, hf]

theorem read_added {path : String} (hmissing : s.entry path = .error .notFound →
    (s.put target new).entry path = .error .notFound) : (s.put target new).read path = s.read path := by
  rcases entry_persists hadd new hmissing with ⟨e, f, he, hf, hgrows⟩ | ⟨e, he, hf⟩
  · rw [read, read, he, hf]
    cases hgrows with
    | same => rfl
    | directory => rfl
  · rw [read, read, he, hf]

theorem readText_added {path : String} (hmissing : s.entry path = .error .notFound →
    (s.put target new).entry path = .error .notFound) : (s.put target new).readText path = s.readText path := by
  rw [readText, readText, read_added hadd new hmissing]

theorem isDirectory_added {path : String} (hmissing : s.entry path = .error .notFound →
    (s.put target new).entry path = .error .notFound) :
    (s.put target new).isDirectory path = s.isDirectory path := by
  rcases entry_persists hadd new hmissing with ⟨e, f, he, hf, hgrows⟩ | ⟨e, he, hf⟩
  · rw [isDirectory, isDirectory, he, hf]
    cases hgrows with
    | same => rfl
    | directory => rfl
  · rw [isDirectory, isDirectory, he, hf]

end FileSystem

end DatasetLint.Files
