import DatasetLint.Files.Path
import DatasetLint.Files.Uri
import DatasetLint.Proofs.Text.Pieces

/-!
# Paths in URIs

An encoded part of a path reads back, and holds none of the characters that separate parts. So a URI leads to
the path that it was made of, except that it has forgotten which separators stood in it: a backslash comes
back as a slash, and a slash behind a drive as a backslash.
-/

namespace DatasetLint.Files.Uri

open Text

/-! ## Parts of a path, encoded and decoded -/

private theorem octet?_hexDigit (b : UInt8) :
    octet? (hexDigit (b.toNat / 16)) (hexDigit (b.toNat % 16)) = some b := by
  have hvalue : ∀ n < 16, hexValue? (hexDigit n) = some n := by decide
  have hb : b.toNat < 256 := b.toNat_lt
  rw [octet?, hvalue _ (by omega), hvalue _ (by omega)]
  simp only [show 16 * (b.toNat / 16) + b.toNat % 16 = b.toNat by omega, UInt8.ofNat_toNat]

private theorem octets_escape (b : UInt8) (cs : List Char) : octets (escape b ++ cs) = b :: octets cs := by
  rw [escape, List.cons_append, List.cons_append, List.cons_append, List.nil_append, octets, octet?_hexDigit]

private theorem octets_flatMap_escape (bs : List UInt8) (cs : List Char) :
    octets (bs.flatMap escape ++ cs) = bs ++ octets cs := by
  induction bs with
  | nil => rfl
  | cons b bs ih => rw [List.flatMap_cons, List.append_assoc, octets_escape, ih, List.cons_append]

private theorem octets_cons {c : Char} (hc : c ≠ '%') (cs : List Char) :
    octets (c :: cs) = Utf8.encode c ++ octets cs := by
  rw [octets]
  exact fun _ _ _ h => absurd h hc

/-- The octets of `encode cs` are those of `cs`. -/
theorem octets_encode (cs : List Char) : octets (encode cs) = cs.flatMap Utf8.encode := by
  induction cs with
  | nil => rfl
  | cons c cs ih =>
    rw [encode, List.flatMap_cons, List.flatMap_cons]
    split
    · rename_i hc
      have hpercent : c ≠ '%' := by
        rintro rfl
        exact absurd hc (by decide)
      rw [List.singleton_append, octets_cons hpercent]
      exact congrArg _ ih
    · rw [octets_flatMap_escape]
      exact congrArg _ ih

@[simp] theorem decode?_encode (cs : List Char) : decode? (encode cs) = some cs := by
  have htext : (⟨(cs.flatMap Utf8.encode).toArray⟩ : ByteArray) = (String.ofList cs).toUTF8 := by
    rw [String.toUTF8, String.toByteArray_ofList]
    exact ByteArray.ext List.data_toByteArray.symm
  rw [decode?, octets_encode, htext, Utf8.decode_toUTF8, Option.map_some, String.toList_ofList]

private theorem mapM_decode?_encode (ps : List (List Char)) : (ps.map encode).mapM decode? = some ps := by
  induction ps with
  | nil => rfl
  | cons p ps ih =>
    rw [List.map_cons, List.mapM_cons, decode?_encode, ih]
    rfl

private theorem slash_not_mem_encode (cs : List Char) : '/' ∉ encode cs := by
  have hdigit : ∀ n < 16, hexDigit n ≠ '/' := by decide
  intro h
  obtain ⟨c, -, hc⟩ := List.mem_flatMap.1 h
  split at hc
  · rename_i hplain
    rw [List.mem_singleton] at hc
    subst hc
    exact absurd hplain (by decide)
  · obtain ⟨b, -, hb⟩ := List.mem_flatMap.1 hc
    have hlt : b.toNat < 256 := b.toNat_lt
    simp only [escape, List.mem_cons, List.not_mem_nil, or_false] at hb
    rcases hb with hb | hb | hb
    · exact absurd hb (by decide)
    · exact hdigit _ (by omega) hb.symm
    · exact hdigit _ (by omega) hb.symm

/-! ## Paths as their names -/

/-- The parts of `path` behind the slash at its front, if there is one. -/
def names (path : List Char) : List (List Char) :=
  if path.head? = some '/' then partsOf path.tail else partsOf path

/-- The path that the names `ns` stand for in a URI. -/
def ofNames (ns : List (List Char)) : List Char :=
  if ns.head?.any isDriveLetter then join ['\\'] ns else '/' :: join ['/'] ns

private theorem ofNames_cons (n : List Char) (ns : List (List Char)) : ofNames (n :: ns) =
    if isDriveLetter n then join ['\\'] (n :: ns) else '/' :: join ['/'] (n :: ns) := rfl

theorem names_ne_nil (path : List Char) : names path ≠ [] := by
  rw [names]
  split <;> exact pieces_ne_nil _ _

private theorem ofPath_eq (path : String) :
    ofPath path = String.ofList (scheme.toList ++ '/' :: join ['/'] ((names path.toList).map encode)) := by
  rw [ofPath, names]
  split
  · rename_i h
    obtain ⟨r, hr⟩ := List.head?_eq_some_iff.1 h
    -- an absolute path has an empty part in front, which becomes the slash behind the authority
    have hcons : partsOf ('/' :: r) = [] :: partsOf r := rfl
    obtain ⟨p, ps, hparts⟩ := List.exists_cons_of_ne_nil (pieces_ne_nil (fun c => c == '/' || c == '\\') r)
    rw [hr, hcons, List.tail_cons, partsOf, hparts]
    rfl
  · rw [List.append_assoc]
    rfl

/-- What the URI of `path` leads back to. -/
theorem toPath?_ofPath (path : String) : toPath? (ofPath path) = some (String.ofList (ofNames (names path.toList))) := by
  have hne : (names path.toList).map encode ≠ [] := fun h => names_ne_nil _ (List.map_eq_nil_iff.1 h)
  have hslash : ∀ p ∈ [] :: (names path.toList).map encode, '/' ∉ p := by
    intro p hp
    rcases List.mem_cons.1 hp with rfl | hp
    · exact List.not_mem_nil
    · obtain ⟨cs, -, rfl⟩ := List.mem_map.1 hp
      exact slash_not_mem_encode cs
  obtain ⟨n, ns, hnames⟩ := List.exists_cons_of_ne_nil (names_ne_nil path.toList)
  -- the slash behind the authority makes an empty part in front
  have hjoin : '/' :: join ['/'] ((names path.toList).map encode) =
      join ['/'] ([] :: (names path.toList).map encode) := by
    rw [hnames]
    rfl
  have hdecode : ([] :: (names path.toList).map encode).mapM decode? = some ([] :: names path.toList) :=
    mapM_decode?_encode ([] :: names path.toList)
  have hfront (cs : List Char) : (!scheme.toList.isPrefixOf (scheme.toList ++ cs)) = false := by
    rw [List.isPrefixOf_iff_prefix.2 (List.prefix_append ..), Bool.not_true]
  have hlength : scheme.length = scheme.toList.length := rfl
  rw [ofPath_eq, toPath?, String.toList_ofList, hfront, hlength, List.drop_left, hjoin,
    pieces_join (List.cons_ne_nil _ _) hslash, hdecode, hnames, ofNames_cons]
  simp only [Bool.false_eq_true, if_false, Option.map_some]
  split
  · rfl
  · rfl

/-! ## Which paths come back -/

/-- A slash for a backslash. -/
def slash (c : Char) : Char := if c = '\\' then '/' else c

/-- The `path` with slashes for its backslashes. -/
def slashed (path : String) : String := String.ofList (path.toList.map slash)

/-- Whether the first name of `path` is that of a drive. -/
def beginsWithDrive (path : String) : Bool := (names path.toList).head?.any isDriveLetter

private theorem partsOf_eq (cs : List Char) : partsOf cs = pieces (· == '/') (cs.map slash) := by
  have hseparates (c : Char) : (c == '/' || c == '\\') = (slash c == '/') := by
    rw [slash]
    split
    · rename_i h
      subst h
      rfl
    · rename_i h
      rw [beq_eq_false_iff_ne.2 h, Bool.or_false]
  have hkept {c : Char} (h : (slash c == '/') = false) : slash c = c := by
    rw [slash] at h ⊢
    split
    · rename_i hc
      rw [if_pos hc] at h
      cases h
    · rfl
  -- a path is cut where its slashed form is, and no piece changes by slashing it
  induction cs with
  | nil => rfl
  | cons c cs ih =>
    rw [partsOf] at ih
    rw [partsOf, List.map_cons, pieces, pieces, ih, hseparates]
    cases h : slash c == '/' with
    | true => rfl
    | false => rw [hkept h]

private theorem slashed_of_absolute {path : String} (h : Path.isAbsolute path = true) :
    slashed path = String.ofList ('/' :: join ['/'] (names path.toList)) := by
  rw [Path.isAbsolute, beq_iff_eq] at h
  obtain ⟨r, hr⟩ := List.head?_eq_some_iff.1 h
  rw [slashed, names, if_pos h, hr, List.tail_cons, partsOf_eq, join_pieces]
  rfl

theorem slashed_eq_iff {path : String} : slashed path = path ↔ '\\' ∉ path.toList := by
  have hmap (cs : List Char) : cs.map slash = cs ↔ '\\' ∉ cs := by
    induction cs with
    | nil => simp
    | cons c cs ih =>
      rw [List.map_cons, List.cons.injEq, ih, List.mem_cons, not_or, slash]
      refine and_congr_left' ⟨fun h => ?_, fun h => if_neg fun hc => h hc.symm⟩
      rintro rfl
      exact absurd h (by decide)
  rw [slashed, ← hmap, ← String.toList_inj, String.toList_ofList]

/-- A path that begins with a drive in a URI comes back without the slash at its front. -/
theorem toPath?_ofPath_of_drive {path : String} (hdrive : beginsWithDrive path = true) :
    toPath? (ofPath path) = some (String.ofList (join ['\\'] (names path.toList))) := by
  rw [beginsWithDrive] at hdrive
  rw [toPath?_ofPath, ofNames, if_pos hdrive]

/-- Without a drive an absolute path comes back `slashed`. -/
theorem toPath?_ofPath_of_absolute {path : String} (h : Path.isAbsolute path = true)
    (hdrive : beginsWithDrive path = false) : toPath? (ofPath path) = some (slashed path) := by
  rw [beginsWithDrive] at hdrive
  rw [toPath?_ofPath, ofNames, hdrive, slashed_of_absolute h]
  rfl

/-- The name of a drive does not begin with a slash, and so no `path` behind it does. -/
theorem isAbsolute_of_drive {path : String} (hdrive : beginsWithDrive path = true) :
    Path.isAbsolute (String.ofList (join ['\\'] (names path.toList))) = false := by
  obtain ⟨d, ns, hnames⟩ := List.exists_cons_of_ne_nil (names_ne_nil path.toList)
  rw [beginsWithDrive, hnames, List.head?_cons, Option.any_some] at hdrive
  rw [isDriveLetter.eq_def] at hdrive
  split at hdrive
  · rename_i c
    have hc : c ≠ '/' := by
      rintro rfl
      exact absurd hdrive (by decide)
    have hhead : (join ['\\'] ([c, ':'] :: ns)).head? = some c := by
      cases ns <;> rfl
    rw [hnames, Path.isAbsolute, String.toList_ofList, hhead]
    exact beq_eq_false_iff_ne.2 fun h => hc (Option.some.inj h)
  · cases hdrive

theorem toPath?_ofPath_eq_iff {path : String} (h : Path.isAbsolute path = true) :
    toPath? (ofPath path) = some path ↔ '\\' ∉ path.toList ∧ beginsWithDrive path = false := by
  cases hdrive : beginsWithDrive path with
  | false => simp [toPath?_ofPath_of_absolute h hdrive, slashed_eq_iff]
  | true =>
    simp only [toPath?_ofPath_of_drive hdrive, Option.some.injEq, Bool.true_eq_false, and_false, iff_false]
    intro heq
    rw [← heq, isAbsolute_of_drive hdrive] at h
    cases h

/-- The URI of a path tells its `names`, and nothing else. -/
theorem ofPath_eq_iff_names {p q : String} : ofPath p = ofPath q ↔ names p.toList = names q.toList := by
  have hpieces (path : String) :
      pieces (· == '/') (join ['/'] ((names path.toList).map encode)) = (names path.toList).map encode := by
    refine pieces_join (fun h => names_ne_nil _ (List.map_eq_nil_iff.1 h)) fun n hn => ?_
    obtain ⟨cs, -, rfl⟩ := List.mem_map.1 hn
    exact slash_not_mem_encode cs
  constructor
  · intro h
    rw [ofPath_eq, ofPath_eq, String.ofList_inj, List.append_cancel_left_eq, List.cons.injEq] at h
    have hencoded : (names p.toList).map encode = (names q.toList).map encode := by
      rw [← hpieces p, ← hpieces q, h.2]
    rw [← Option.some.injEq, ← mapM_decode?_encode, ← mapM_decode?_encode, hencoded]
  · intro h
    rw [ofPath_eq, ofPath_eq, h]

/-- The paths `p` and `q` have one URI exactly if they differ in nothing but which separators they have. -/
theorem ofPath_eq_iff {p q : String} (hp : Path.isAbsolute p = true) (hq : Path.isAbsolute q = true) :
    ofPath p = ofPath q ↔ slashed p = slashed q := by
  have hnames {path : String} (h : Path.isAbsolute path = true) :
      names path.toList = pieces (· == '/') (slashed path).toList.tail := by
    rw [Path.isAbsolute, beq_iff_eq] at h
    obtain ⟨r, hr⟩ := List.head?_eq_some_iff.1 h
    rw [names, if_pos h, hr, List.tail_cons, partsOf_eq, slashed, hr, String.toList_ofList]
    rfl
  rw [ofPath_eq_iff_names]
  constructor
  · intro h
    rw [slashed_of_absolute hp, slashed_of_absolute hq, h]
  · intro h
    rw [hnames hp, hnames hq, h]

end DatasetLint.Files.Uri
