import DatasetLint.Proofs.Binding.Meaning

/-!
# The severity of rules for prefixes

A rule that says nothing of its severity takes that of its section, wherever in the section this stands. What a
section and its items say is told by their last entries, an empty one saying nothing. Where a rule has no severity
of its own all the same, it is checked with the common one, so that it makes no difference whether it has taken it.
-/

namespace DatasetLint.Check.Prefixes

open Binding Config

/-! ## What sections say -/

/-- The entries of the section `x`; the empty node has none. -/
def entries (x : Node) : List (String × Node) := x.entries?.getD []

/-- What `x` says of a severity in its last entry for it, if anything. -/
inductive Says (x : Node) : Option Severity → Prop
  | nothing (h : ∀ y, lastValue? (entries x) "severity" = some y → y = .null) : Says x none
  | severity {w : String} {v : Severity} (h : lastValue? (entries x) "severity" = some (.scalar w))
      (hw : Severity.read w = .ok v) : Says x (some v)

/-- The items of the last list of rules in `x`. -/
def items (x : Node) : List Node := ((lastValue? (entries x) "prefixes").bind Node.items?).getD []

/-- A section fills a record with its `entries`, and then `finish` runs. -/
theorem filled_of_becomes {σ : Type} {r : Record σ} {s t : σ} {x : Node} (h : r.Becomes s x t) :
    ∃ u, Filled r.fields.Sets (entries x) s u ∧ t = r.finish u := by
  rw [Record.becomes_iff] at h
  rcases h with ⟨rfl, rfl⟩ | ⟨es, u, rfl, hfilled, rfl⟩
  · exact ⟨s, .nil s, rfl⟩
  · exact ⟨u, hfilled, rfl⟩

/-! ## The fields of rules and of their settings -/

private theorem Rule.reads_severity : Rule.record.fields.Reads "severity"
    ⟨.scalar (.optional .severity), fun a r => { r with severity := a }⟩ Rule.severity :=
  Fields.Reads.of_toList rfl (fun _ _ => rfl) (by simp [Rule.record, Record.fields, Fields.toList])

private theorem Settings.reads_severity : Settings.record.fields.Reads "severity"
    ⟨.scalar .severity, fun a s => { s with severity := a }⟩ Settings.severity :=
  Fields.Reads.of_toList rfl (fun _ _ => rfl) (by simp [Settings.record, Record.fields, Fields.toList])

private theorem Settings.reads_rules : Settings.record.fields.Reads "prefixes"
    ⟨.records Rule.record, fun a s => { s with rules := a }⟩ Settings.rules :=
  Fields.Reads.of_toList rfl (fun _ _ => rfl) (by simp [Settings.record, Record.fields, Fields.toList])

/-- A rule `r` on its own has the severity that its item `x` `Says`, if any. -/
theorem says_of_becomes {x : Node} {r : Rule} (h : Rule.record.Becomes .default x r) : Says x r.severity := by
  obtain ⟨u, hfilled, hfinish⟩ := filled_of_becomes h
  obtain rfl : r = u := hfinish
  have hget := hfilled.get Rule.reads_severity
  cases hlast : lastValue? (entries x) "severity" with
  | none =>
    rw [hlast] at hget
    have hnone : r.severity = none := hget
    rw [hnone]
    exact .nothing fun y hy => nomatch hlast.symm.trans hy
  | some y =>
    simp only [hlast, Kind.Means] at hget
    rcases hget with ⟨w, rfl, hw⟩ | ⟨rfl, hw⟩
    · simp only [ScalarType.optional, ScalarType.severity, Except.map_eq_ok_iff] at hw
      obtain ⟨v, hv, hsev⟩ := hw
      rw [← hsev]
      exact .severity hlast hv
    · have hnone : r.severity = none := (Option.some.inj hw).symm
      rw [hnone]
      exact .nothing fun y hy => Option.some.inj (hy.symm.trans hlast)

/-- Before rules `inherit`: the severity of `u` is that of the section or else `.warning`, and there is one rule for
each of its `items`. -/
theorem says_of_filled {x : Node} {u : Settings}
    (h : Filled Settings.record.fields.Sets (entries x) .default u) :
    (∃ common, Says x common ∧ u.severity = common.getD .warning) ∧
      List.Forall₂ (fun y r => Says y r.severity) (items x) u.rules := by
  constructor
  · have hget := h.get Settings.reads_severity
    cases hlast : lastValue? (entries x) "severity" with
    | none =>
      rw [hlast] at hget
      exact ⟨none, .nothing fun y hy => (nomatch hlast.symm.trans hy), hget⟩
    | some y =>
      simp only [hlast, Kind.Means, ScalarType.Means, ScalarType.severity] at hget
      rcases hget with ⟨w, rfl, hw⟩ | ⟨-, ⟨⟩⟩
      exact ⟨some u.severity, .severity hlast hw, rfl⟩
  · have hget := h.get Settings.reads_rules
    rw [items]
    cases hlast : lastValue? (entries x) "prefixes" with
    | none =>
      rw [hlast] at hget
      have hnil : u.rules = [] := hget
      rw [hnil]
      exact .nil
    | some y =>
      simp only [hlast, Kind.Means] at hget
      rcases hget with ⟨rfl, hnil⟩ | ⟨ys, rfl, hrules⟩
      · rw [hnil]
        exact .nil
      · exact hrules.imp fun y r => says_of_becomes

/-! ## Checking without and with inheritance -/

private theorem lineProblems_inherit (s : Settings) (number : Nat) (line : List Char) :
    lineProblems s.inherit number line = lineProblems s number line := by
  unfold lineProblems
  split
  · rfl
  · show (s.rules.map _).filterMap _ = _
    rw [List.filterMap_map]
    rfl

private theorem linesProblems_inherit (s : Settings) (number : Nat) (ls : List (List Char)) :
    linesProblems s.inherit number ls = linesProblems s number ls := by
  induction ls generalizing number with
  | nil => rfl
  | cons l ls ih => rw [linesProblems, linesProblems, lineProblems_inherit, ih]

private theorem textProblems_inherit (s : Settings) (text : List Char) :
    textProblems s.inherit text = textProblems s text :=
  linesProblems_inherit s 1 (lines text)

private theorem findIn_inherit (x : Context) (s : Settings) (ps : List String) :
    findIn x s.inherit ps = findIn x s ps := by
  induction ps with
  | nil => rfl
  | cons p ps ih =>
    rw [findIn, findIn, ih]
    simp only [textProblems_inherit]

private theorem find_inherit (x : Context) (s : Settings) : find x s.inherit = find x s := by
  have hempty : s.inherit.rules.isEmpty = s.rules.isEmpty := List.isEmpty_map
  rw [find, find, hempty]
  simp only [findIn_inherit]

/-! ## Settings of a section -/

/-- What binding makes of a section that fits: the settings `u` of its entries, which then `inherit`. -/
theorem Settings.exists_filled {path : NodePath} {x : Node}
    (herror : (Settings.record.bindUnder path .default x).error = none) :
    ∃ u, Filled Settings.record.fields.Sets (entries x) .default u ∧
      (Settings.record.bindUnder path .default x).target = u.inherit :=
  filled_of_becomes (Record.becomes_of_bindUnder lawful_prefixesRecord herror)

/-- The common severity and the rules of the settings `s` are those that the section `x` and its items say. -/
theorem Settings.says_of_bindUnder {path : NodePath} {x : Node} {s : Settings}
    (h : Settings.record.bindUnder path .default x = ⟨s, none⟩) :
    (∃ common, Says x common ∧ s.severity = common.getD .warning) ∧
      List.Forall₂ (fun y r => ∃ own, Says y own ∧ r.severity = some (own.getD s.severity)) (items x) s.rules := by
  obtain ⟨u, hu, htarget⟩ := exists_filled (congrArg Bound.error h)
  obtain rfl : s = u.inherit := (congrArg Bound.target h).symm.trans htarget
  obtain ⟨hcommon, hrules⟩ := says_of_filled hu
  exact ⟨hcommon, List.forall₂_map_right_iff.2 (hrules.imp fun y r hr => ⟨r.severity, hr, rfl⟩)⟩

/-- Settings `u` and `u'` are told by their severity and their rules, and these by the last entries for them. -/
theorem Settings.eq_of_filled {es es' : List (String × Node)} {u u' : Settings}
    (hu : Filled Settings.record.fields.Sets es .default u) (hu' : Filled Settings.record.fields.Sets es' .default u')
    (hlast : ∀ k, lastValue? es k = lastValue? es' k) : u = u' := by
  have hseverity : u.severity = u'.severity := hu.get_eq reads_severity hu' (hlast _)
  have hrules : u.rules = u'.rules := hu.get_eq reads_rules hu' (hlast _)
  cases u
  cases u'
  cases hseverity
  cases hrules
  rfl

/-- Entries `es'` in another order bind to the same settings, if the last with each key is the same. -/
theorem Settings.bindUnder_reordered {path : NodePath} {es es' : List (String × Node)} {s : Settings}
    (hsame : ∀ e, e ∈ es ↔ e ∈ es') (hlast : ∀ k, lastValue? es k = lastValue? es' k)
    (h : Settings.record.bindUnder path .default (.mapping es) = ⟨s, none⟩) :
    Settings.record.bindUnder path .default (.mapping es') = ⟨s, none⟩ := by
  have herror : (Settings.record.bindUnder path .default (.mapping es)).error = none := congrArg Bound.error h
  have herror' : (Settings.record.bindUnder path .default (.mapping es')).error = none := by
    rw [Record.error_bindUnder_eq_none_iff, Record.conforms_iff] at herror ⊢
    rcases herror with ⟨⟨⟩⟩ | ⟨_, ⟨⟩, hfits⟩
    exact .inr ⟨es', rfl, fun e he => hfits e ((hsame e).2 he)⟩
  obtain ⟨u, hu, htarget⟩ := exists_filled herror
  obtain ⟨u', hu', htarget'⟩ := exists_filled herror'
  have heq : u = u' := eq_of_filled hu hu' hlast
  have htargets : s = (Settings.record.bindUnder path .default (.mapping es')).target :=
    (congrArg Bound.target h).symm.trans (htarget.trans (heq ▸ htarget'.symm))
  rw [htargets, ← herror']

/-- A section `x` that fits gives one rule for each of its `items`, in order. Each has the severity that its item
`Says`, or else that of `s`, which is what `x` `Says` or else `.warning`. The order of the entries does not matter
as long as the last with each key is the same. And no settings report anything else, or otherwise, when `finish`
lets their rules inherit. -/
theorem severities_inherited :
    (∀ path x s, Settings.record.bindUnder path .default x = ⟨s, none⟩ →
      (∃ common, Says x common ∧ s.severity = common.getD .warning) ∧
      List.Forall₂ (fun y r => ∃ own, Says y own ∧ r.severity = some (own.getD s.severity)) (items x) s.rules) ∧
    (∀ path es es' s, (∀ e, e ∈ es ↔ e ∈ es') → (∀ k, lastValue? es k = lastValue? es' k) →
      Settings.record.bindUnder path .default (.mapping es) = ⟨s, none⟩ →
      Settings.record.bindUnder path .default (.mapping es') = ⟨s, none⟩) ∧
    (∀ s text, textProblems (Settings.record.finish s) text = textProblems s text) ∧
    ∀ x s, find x (Settings.record.finish s) = find x s :=
  ⟨fun _ _ _ => Settings.says_of_bindUnder, fun _ _ _ _ => Settings.bindUnder_reordered, textProblems_inherit,
    find_inherit⟩

/-- A severity behind the rules that take it, of which one has its own and one an empty one. -/
def lateSeverity : List (String × Node) :=
  [("prefixes", .sequence [.mapping [("severity", .scalar "error"), ("severity", .null)],
    .mapping [("name", .scalar "a"), ("severity", .scalar "warning")]]), ("severity", .scalar "error")]

/-- The severity is inherited wherever it stands. -/
theorem severities_inherited_late :
    Settings.record.bindUnder [] .default (.mapping lateSeverity) =
      ⟨⟨.error, [⟨"", "", some .error⟩, ⟨"a", "", some .warning⟩]⟩, none⟩ ∧
    Settings.record.bindUnder [] .default (.mapping lateSeverity.reverse) =
      ⟨⟨.error, [⟨"", "", some .error⟩, ⟨"a", "", some .warning⟩]⟩, none⟩ ∧
    List.Forall₂ (fun y (r : Rule) => ∃ own, Says y own ∧ r.severity = some (own.getD .error))
      [.mapping [("severity", .scalar "error"), ("severity", .null)],
        .mapping [("name", .scalar "a"), ("severity", .scalar "warning")]]
      [⟨"", "", some .error⟩, ⟨"a", "", some .warning⟩] := by
  have h : Settings.record.bindUnder [] .default (.mapping lateSeverity) =
      ⟨⟨.error, [⟨"", "", some .error⟩, ⟨"a", "", some .warning⟩]⟩, none⟩ := by rfl
  obtain ⟨hbound, horder, -⟩ := severities_inherited
  refine ⟨h, horder [] lateSeverity lateSeverity.reverse _ (fun e => List.mem_reverse.symm) ?_ h, (hbound [] _ _ h).2⟩
  intro k
  by_cases hk : k = "severity"
  · rw [hk]
    rfl
  · have hne : (k == "severity") = false := beq_eq_false_iff_ne.2 hk
    simp [lateSeverity, lastValue?, List.lookup_cons, hne]

end DatasetLint.Check.Prefixes
