import DatasetLint.Proofs.Files.Below
import DatasetLint.Proofs.Text.Order
import Mathlib.Data.List.Lex

/-!
# The order of paths

Paths are in the order of their parts, and names among these in the order of their octets. What the names on
the way from a directory decide is the same for their paths, so that paths below one directory can be compared by
these names.
-/

namespace DatasetLint.Files

namespace Part

/-- Which kinds of parts come first. -/
def rank : Part → Nat
  | root => 0
  | here => 1
  | up => 2
  | name _ => 3

/-- The order of parts: of two names by their octets, else by `rank`. -/
def Precedes : Part → Part → Prop
  | name m, name n => List.Lex (· < ·) (Text.Utf8.octets m) (Text.Utf8.octets n)
  | x, y => x.rank < y.rank

instance : Std.Asymm Precedes where
  asymm x y h h' := by
    cases x <;> cases y
    case name.name => exact asymm_of (List.Lex (· < ·)) h h'
    all_goals exact Nat.lt_asymm h h'

end Part

namespace Path

/-- The order of paths, by their `parts`. -/
def Precedes (p q : String) : Prop := List.Lex Part.Precedes (parts p) (parts q)

instance : Std.Asymm Precedes := ⟨fun _ _ => asymm_of (List.Lex Part.Precedes)⟩

/-! ## The parts below a directory -/

/-- A relative path `p` has parts. -/
theorem named_ne_nil {p : String} (hp : isAbsolute p = false) (hne : p.toList ≠ []) : named p ≠ [] := by
  intro h
  obtain ⟨c, r, hcs⟩ := List.exists_cons_of_ne_nil hne
  rw [named, List.map_eq_nil_iff, List.filter_eq_nil_iff] at h
  have hhead : (Text.pieces (· == '/') p.toList).head? = some (p.toList.takeWhile fun c => !(c == '/')) :=
    Text.head?_pieces _
  have hfirst := h _ (List.mem_of_head? hhead)
  rw [hcs, List.takeWhile_cons] at hfirst
  have hslash : c = '/' := by
    by_contra hc
    rw [beq_eq_false_iff_ne.2 hc] at hfirst
    exact hfirst rfl
  rw [isAbsolute, hcs, hslash] at hp
  cases hp

private theorem parts_join {base n : String} (hbase : base.toList ≠ []) (hn : IsName n) :
    parts (join base n) = parts base ++ [.name n] := by
  have habsolute : isAbsolute (join base n) = isAbsolute base := by
    rw [join_of_relative hn.isAbsolute, isAbsolute_joint hbase]
  have hfilter : (steps base).filter (· ≠ .here) = (named base).filter (· ≠ .here) := by
    rcases steps_eq base with h | h
    · rw [h]
    · rw [h, List.filter_append]
      exact List.append_nil _
  have hlast : [Part.name n].filter (· ≠ .here) = [.name n] := rfl
  rw [parts, parts, habsolute, steps_join hn, List.filter_append, hlast, hfilter, ← List.append_assoc]
  congr 2
  cases h : isAbsolute base with
  | true => rfl
  | false =>
    -- a relative path begins with the same part, whether a name follows, a slash or nothing
    obtain ⟨x, xs, hx⟩ := List.exists_cons_of_ne_nil (named_ne_nil h hbase)
    have hhead : (steps base).head? = (named base).head? := by
      rcases steps_eq base with h | h
      · rw [h]
      · rw [h, hx]
        rfl
    rw [hhead, hx]
    rfl

theorem join_ne_nil (base : String) {n : String} (hn : IsName n) : (join base n).toList ≠ [] := by
  rw [join_of_relative hn.isAbsolute, String.toList_append]
  exact List.append_ne_nil_of_right_ne_nil _ hn.ne_empty

theorem parts_pathOf {root : String} {names : List String} (hroot : root.toList ≠ []) (hnames : ∀ n ∈ names, IsName n) :
    parts (Dataset.pathOf root names) = parts root ++ names.map .name := by
  induction names generalizing root with
  | nil => exact (List.append_nil _).symm
  | cons n ns ih =>
    have hn := hnames n (List.mem_cons_self ..)
    have hrest := ih (join_ne_nil root hn) fun m hm => hnames m (List.mem_cons_of_mem _ hm)
    rw [parts_join hroot hn, List.append_assoc] at hrest
    exact hrest

/-! ## Paths below one directory -/

variable {root : String} {as bs : List String}

private theorem lex_map_name {as bs : List String} (h : List.Lex (· < ·) as bs) :
    List.Lex Part.Precedes (as.map .name) (bs.map .name) := by
  induction h with
  | nil => exact .nil
  | cons _ ih => exact .cons ih
  | rel h => exact .rel (Text.Utf8.lex_octets h)

/-- Paths below `root` are in the order of the names that lead to them. -/
theorem precedes_pathOf (hroot : root.toList ≠ []) (has : ∀ n ∈ as, IsName n) (hbs : ∀ n ∈ bs, IsName n)
    (h : List.Lex (· < ·) as bs) : Precedes (Dataset.pathOf root as) (Dataset.pathOf root bs) := by
  rw [Precedes, parts_pathOf hroot has, parts_pathOf hroot hbs]
  exact (lex_map_name h).append_left _ _

end Path

end DatasetLint.Files
