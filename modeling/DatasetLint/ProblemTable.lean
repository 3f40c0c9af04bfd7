import DatasetLint.Problem

/-!
# Tables of problems

The problems of a run, gathered by resource. Resources are in the order of their code points, which
is also the order of their UTF-8 octets; the problems of one resource keep the order in which they were
found. A resource without problems need not be there.
-/

namespace DatasetLint

/-- The problems of one resource. -/
abbrev Bucket := String × List Problem

/-- Buckets whose resources increase. -/
abbrev Increasing (bs : List Bucket) : Prop := bs.Pairwise (·.1 < ·.1)

namespace Bucket

/-- The problems of a resource become `change` of them; a resource that is missing had none. -/
def modify (resource : String) (change : List Problem → List Problem) : List Bucket → List Bucket
  | [] => [(resource, change [])]
  | (r, ps) :: bs =>
    if resource = r then (r, change ps) :: bs
    else if resource < r then (resource, change []) :: (r, ps) :: bs
    else (r, ps) :: modify resource change bs

theorem mem_modify {resource : String} {change : List Problem → List Problem} {bs : List Bucket} {b : Bucket}
    (h : b ∈ modify resource change bs) : b.1 = resource ∨ ∃ c ∈ bs, c.1 = b.1 := by
  induction bs with
  | nil =>
    simp only [modify, List.mem_singleton] at h
    exact .inl (by rw [h])
  | cons c bs ih =>
    simp only [modify] at h
    split at h
    · rcases List.mem_cons.1 h with rfl | h
      · exact .inr ⟨c, by simp, rfl⟩
      · exact .inr ⟨b, by simp [h], rfl⟩
    · split at h
      · rcases List.mem_cons.1 h with rfl | h
        · exact .inl rfl
        · exact .inr ⟨b, h, rfl⟩
      · rcases List.mem_cons.1 h with rfl | h
        · exact .inr ⟨(c.1, c.2), by simp, rfl⟩
        · exact (ih h).imp id fun ⟨d, hd, e⟩ => ⟨d, by simp [hd], e⟩

theorem increasing_modify (resource : String) (change : List Problem → List Problem) {bs : List Bucket}
    (h : Increasing bs) : Increasing (modify resource change bs) := by
  induction bs with
  | nil => simp [modify]
  | cons c bs ih =>
    obtain ⟨hc, hbs⟩ := List.pairwise_cons.1 h
    simp only [modify]
    split
    · exact List.pairwise_cons.2 ⟨fun b hb => hc b hb, hbs⟩
    · rename_i hne
      split
      · rename_i hlt
        refine List.pairwise_cons.2 ⟨fun b hb => ?_, h⟩
        rcases List.mem_cons.1 hb with rfl | hb
        · exact hlt
        · exact String.lt_trans hlt (hc b hb)
      · rename_i hge
        refine List.pairwise_cons.2 ⟨fun b hb => ?_, ih hbs⟩
        rcases mem_modify hb with e | ⟨d, hd, e⟩
        · rw [e]
          exact Std.lt_of_le_of_ne (String.not_lt.1 hge) fun h => hne h.symm
        · rw [← e]
          exact hc d hd

end Bucket

/-- Problems gathered by resource, in the order of the resources. -/
structure ProblemTable where
  buckets : List Bucket
  increasing : Increasing buckets
deriving DecidableEq

namespace ProblemTable

def empty : ProblemTable := ⟨[], .nil⟩

instance : Inhabited ProblemTable := ⟨empty⟩

/-- The problems of a resource, none if it is not there. -/
def get (s : ProblemTable) (resource : String) : List Problem := (s.buckets.lookup resource).getD []

/-- The table with one more problem, the last of its resource. -/
def push (s : ProblemTable) (resource : String) (p : Problem) : ProblemTable :=
  ⟨Bucket.modify resource (· ++ [p]) s.buckets, Bucket.increasing_modify _ _ s.increasing⟩

/-- The table with some more problems, in turn. -/
def record (s : ProblemTable) (fs : List Finding) : ProblemTable :=
  fs.foldl (fun s f => s.push f.resource f.problem) s

/-- The table in which a resource has these problems and no others, perhaps none at all. -/
def put (s : ProblemTable) (resource : String) (ps : List Problem) : ProblemTable :=
  ⟨Bucket.modify resource (fun _ => ps) s.buckets, Bucket.increasing_modify _ _ s.increasing⟩

/-- The table with these problems by resource; of two entries for a resource the later counts. -/
def ofList (bs : List Bucket) : ProblemTable := bs.foldl (fun s b => s.put b.1 b.2) empty

/-- All problems with their resources, in order. -/
def toList (s : ProblemTable) : List Finding := s.buckets.flatMap fun b => b.2.map (⟨b.1, ·⟩)

/-- How many resources have a problem. -/
def resourceCount (s : ProblemTable) : Nat := s.buckets.countP fun b => !b.2.isEmpty

/-- How many problems have a severity. -/
def count (s : ProblemTable) (v : Severity) : Nat := s.toList.countP fun f => f.problem.severity == v

def anyProblem (s : ProblemTable) : Bool := 0 < s.resourceCount

def anyError (s : ProblemTable) : Bool := s.toList.any fun f => f.problem.severity == .error

/-! ## Filtering -/

/-- A bucket with the problems that are kept, unless none is. -/
def keepBucket (keep : String → Problem → Bool) (b : Bucket) : Option Bucket :=
  let kept := b.2.filter (keep b.1)
  if kept.isEmpty then none else some (b.1, kept)

theorem keepBucket_fst {keep : String → Problem → Bool} {b c : Bucket} (h : keepBucket keep b = some c) :
    c.1 = b.1 := by
  simp only [keepBucket] at h
  split at h
  · cases h
  · cases h
    rfl

/-- The problems that are kept; a resource that keeps none is left out. -/
def filter (keep : String → Problem → Bool) (s : ProblemTable) : ProblemTable :=
  ⟨s.buckets.filterMap (keepBucket keep), by
    refine List.Pairwise.filterMap _ (fun a b hab a' ha b' hb => ?_) s.increasing
    rw [keepBucket_fst ha, keepBucket_fst hb]
    exact hab⟩

end ProblemTable

end DatasetLint
