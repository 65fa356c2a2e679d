import ClusterGateway.Proofs.Order.StableSort
import ClusterGateway.Proofs.Selector.Reading
import Mathlib.Data.List.Forall2

/-!
# Selectors survive rendering

What a list request asks is what the selector asks.

* `LabelSelector.render_eq_ok_iff` : a selector is rendered unless one of its expressions is
  malformed, and its text is made of its clauses in the order of their keys.
* `LabelSelector.read?_of_render` : the text is read as the requirements of the selector.
* `LabelSelector.render_of_reordered` : the text does not depend on the order of values, nor on
  that of expressions with different keys.
* `LabelSelector.render_means` : **the text of a selector means the selector.**
-/

namespace ClusterGateway

theorem isOrder_string : IsOrder fun a b : String => decide (a ≤ b) where
  total a b := by simpa using String.le_total a b
  trans a b c hab hbc := decide_eq_true (String.le_trans (of_decide_eq_true hab)
    (of_decide_eq_true hbc))
  antisymm a b hab hba := String.le_antisymm (of_decide_eq_true hab) (of_decide_eq_true hba)

/-! ### Expressions -/

namespace LabelExpression

/-- Expressions that differ in the order of their values at most. -/
structure Alike (e e' : LabelExpression) : Prop where
  /-- They are about one key. -/
  key : e.key = e'.key
  /-- They compare in one way. -/
  operator : e.operator = e'.operator
  /-- They have the same values. -/
  values : e.values.Perm e'.values

/-- An expression that does not make sense: its operator is not known, or does not go with the
number of values. -/
def IsMalformed (e : LabelExpression) : Prop :=
  e.operator ∉ ["In", "NotIn", "Exists", "DoesNotExist"] ∨
    (e.operator ∈ ["In", "NotIn"] ∧ e.values = []) ∨
    (e.operator ∈ ["Exists", "DoesNotExist"] ∧ e.values ≠ [])

/-- An expression with its values in order. -/
def inOrder (e : LabelExpression) : LabelExpression := { e with values := e.sortedValues }

/-- The clause of an expression that has one. -/
def text (e : LabelExpression) : String := e.clause?.getD ""

variable {e e' : LabelExpression}

theorem sortedValues_perm (e : LabelExpression) : e.sortedValues.Perm e.values :=
  List.mergeSort_perm _ _

theorem inOrder_alike (e : LabelExpression) : e.inOrder.Alike e := ⟨rfl, rfl, e.sortedValues_perm⟩

theorem Alike.symm (h : e.Alike e') : e'.Alike e := ⟨h.key.symm, h.operator.symm, h.values.symm⟩

theorem Alike.sortedValues_eq (h : e.Alike e') : e.sortedValues = e'.sortedValues := by
  have hsorted (e : LabelExpression) :
      e.sortedValues.Pairwise fun a b => decide (a ≤ b) = true :=
    List.pairwise_mergeSort isOrder_string.trans isOrder_string.total e.values
  have hperm := e.sortedValues_perm.trans (h.values.trans e'.sortedValues_perm.symm)
  exact hperm.eq_of_pairwise (fun a b _ _ => isOrder_string.antisymm a b) (hsorted e) (hsorted e')

theorem Alike.clause?_eq (h : e.Alike e') : e.clause? = e'.clause? := by
  have hnil : e.values = [] ↔ e'.values = [] := by
    rw [← List.length_eq_zero_iff, ← List.length_eq_zero_iff, h.values.length_eq]
  simp only [clause?, h.key, h.operator, h.sortedValues_eq, hnil, ne_eq]

theorem Alike.holds_iff (h : e.Alike e') {labels : Labels} : e.Holds labels ↔ e'.Holds labels := by
  simp only [Holds, h.key, h.operator, h.values.mem_iff]

/-- **An expression has a clause just if it makes sense.** -/
theorem clause?_eq_none_iff : e.clause? = none ↔ e.IsMalformed := by
  by_cases hv : e.values = [] <;>
    simp only [clause?, IsMalformed, hv, ne_eq, not_true_eq_false, not_false_eq_true, and_true,
      and_false, if_false, List.mem_cons, List.not_mem_nil] <;>
    grind

theorem clause?_cases {text : String} (h : e.clause? = some text) :
    (e.operator = "In" ∧ e.values ≠ [] ∧
      text = e.key ++ " in (" ++ ",".intercalate e.sortedValues ++ ")") ∨
    (e.operator = "NotIn" ∧ e.values ≠ [] ∧
      text = e.key ++ " notin (" ++ ",".intercalate e.sortedValues ++ ")") ∨
    (e.operator = "Exists" ∧ e.values = [] ∧ text = e.key) ∨
    (e.operator = "DoesNotExist" ∧ e.values = [] ∧ text = "!" ++ e.key) := by
  rw [clause?] at h
  split at h
  · rename_i hform
    exact .inl ⟨hform.1, hform.2, (Option.some.inj h).symm⟩
  split at h
  · rename_i hform
    exact .inr (.inl ⟨hform.1, hform.2, (Option.some.inj h).symm⟩)
  split at h
  · rename_i hform
    exact .inr (.inr (.inl ⟨hform.1, hform.2, (Option.some.inj h).symm⟩))
  split at h
  · rename_i hform
    exact .inr (.inr (.inr ⟨hform.1, hform.2, (Option.some.inj h).symm⟩))
  · cases h

theorem sortedValues_eq_nil_iff : e.sortedValues = [] ↔ e.values = [] := by
  rw [← List.length_eq_zero_iff, e.sortedValues_perm.length_eq, List.length_eq_zero_iff]

theorem inOrder_of_eq {key operator : String} {values : List String} (hk : e.key = key)
    (ho : e.operator = operator) (hv : e.sortedValues = values) :
    e.inOrder = ⟨key, operator, values⟩ := by
  rw [inOrder, hk, ho, hv]

theorem clause?_eq_some_text (h : ¬e.IsMalformed) : e.clause? = some e.text := by
  cases hc : e.clause? with
  | none => exact absurd (clause?_eq_none_iff.1 hc) h
  | some text => rw [LabelExpression.text, hc, Option.getD_some]

end LabelExpression

/-! ### Requirements -/

namespace Requirement

/-- Requirements that differ in the order of values at most. -/
inductive Alike : Requirement → Requirement → Prop
  /-- The same pair. -/
  | pair (key value : String) : Alike (.pair key value) (.pair key value)
  /-- Expressions that differ in the order of their values. -/
  | expression {e e' : LabelExpression} : e.Alike e' → Alike (.expression e) (.expression e')

/-- The key that a requirement is about. -/
def key : Requirement → String
  | .pair key _ => key
  | .expression e => e.key

/-- The clause of a requirement. -/
def text : Requirement → String
  | .pair key value => key ++ "=" ++ value
  | .expression e => e.text

/-- The clause of a requirement with its key. -/
def clause (r : Requirement) : String × String := (r.key, r.text)

/-- A requirement with its values in order. -/
def inOrder : Requirement → Requirement
  | .pair key value => .pair key value
  | .expression e => .expression e.inOrder

/-- A requirement that makes sense, of keys and values that an API server admits. -/
def IsAdmissible : Requirement → Prop
  | .pair key value => IsLabelKey key ∧ IsLabelValue value
  | .expression e => ¬e.IsMalformed ∧ IsLabelKey e.key ∧ ∀ v ∈ e.values, IsLabelValue v

variable {r r' : Requirement}

theorem inOrder_alike (r : Requirement) : r.inOrder.Alike r := by
  cases r with
  | pair key value => exact .pair key value
  | expression e => exact .expression e.inOrder_alike

theorem Alike.holds_iff (h : r.Alike r') {labels : Labels} : r.Holds labels ↔ r'.Holds labels := by
  cases h with
  | pair key value => rfl
  | expression h => exact h.holds_iff

theorem isClosed_values {values : List String} (hv : ∀ v ∈ values, IsLabelValue v) :
    LabelSelector.IsClosed
      ('(' :: [','].intercalate (values.map String.toList) ++ [')']) := by
  have hplain (c : Char) (hc : isKeyChar c = false) (hcomma : c ≠ ',') :
      c ∉ [','].intercalate (values.map String.toList) := by
    refine Text.not_mem_intercalate hcomma fun p hp => ?_
    obtain ⟨v, hmem, rfl⟩ := List.mem_map.1 hp
    exact not_mem_of_isKeyChar (hv v hmem).all_isKeyChar hc
  exact LabelSelector.isClosed_parentheses (hplain '(' rfl (by decide)) (hplain ')' rfl (by decide))

/-- A clause that is read as a requirement and is not torn apart before. -/
structure IsRead (clause : List Char) (r : Requirement) : Prop where
  /-- It is read as the requirement. -/
  read : read? clause = some r
  /-- The split at the commas outside parentheses passes over it. -/
  closed : LabelSelector.IsClosed clause
  /-- It is not empty. -/
  ne_nil : clause ≠ []

theorem isRead_pair {key value : String} (hk : IsLabelKey key) (hv : IsLabelValue value) :
    IsRead (key ++ "=" ++ value).toList (.pair key value) := by
  have htext : (key ++ "=" ++ value).toList = key.toList ++ '=' :: value.toList := by
    simp [String.toList_append]
  have hplain (c : Char) (hc : isKeyChar c = false) (heq : c ≠ '=') :
      c ∉ '=' :: value.toList := by
    rw [List.mem_cons, not_or]
    exact ⟨heq, not_mem_of_isKeyChar hv.all_isKeyChar hc⟩
  rw [htext]
  refine ⟨read?_pair hk hv, hk.isClosed.append ?_, by simp⟩
  exact LabelSelector.isClosed_of_plain (hplain '(' rfl (by decide)) (hplain ')' rfl (by decide))
    (hplain ',' rfl (by decide))

theorem toList_listed (key word : String) (values : List String) :
    (key ++ word ++ ",".intercalate values ++ ")").toList =
      key.toList ++ word.toList ++ ([','].intercalate (values.map String.toList) ++ [')']) := by
  simp [String.toList_append, String.toList_intercalate]

theorem isRead_listed {key word operator : String} (hk : IsLabelKey key)
    (hword : IsListing word operator) {values : List String} (hv : ∀ v ∈ values, IsLabelValue v)
    (hne : values ≠ []) :
    IsRead (key ++ word ++ ",".intercalate values ++ ")").toList
      (.expression ⟨key, operator, values⟩) := by
  rw [toList_listed]
  refine ⟨read?_listed hk hword hv hne, ?_, by simp⟩
  -- the word ends with the opening parenthesis, which belongs to the values here
  obtain ⟨start, hstart, hclosed⟩ : ∃ start, word.toList = start ++ ['('] ∧
      LabelSelector.IsClosed start := by
    cases hword with
    | oneOf =>
      exact ⟨" in ".toList, by decide,
        LabelSelector.isClosed_of_plain (by decide) (by decide) (by decide)⟩
    | noneOf =>
      exact ⟨" notin ".toList, by decide,
        LabelSelector.isClosed_of_plain (by decide) (by decide) (by decide)⟩
  have happend := (hk.isClosed.append hclosed).append (isClosed_values hv)
  rw [hstart]
  simpa using happend

/-- **The clause of an expression is read as the expression.** -/
theorem isRead_expression {e : LabelExpression} (hk : IsLabelKey e.key)
    (hv : ∀ v ∈ e.values, IsLabelValue v) (h : ¬e.IsMalformed) :
    IsRead e.text.toList (.expression e.inOrder) := by
  have hsorted (v : String) (hmem : v ∈ e.sortedValues) : IsLabelValue v :=
    hv v (e.sortedValues_perm.mem_iff.1 hmem)
  have hnone (hnil : e.values = []) : e.sortedValues = [] :=
    LabelExpression.sortedValues_eq_nil_iff.2 hnil
  have hsome (hne : e.values ≠ []) : e.sortedValues ≠ [] :=
    fun hnil => hne (LabelExpression.sortedValues_eq_nil_iff.1 hnil)
  -- one case for each form of a clause
  rcases LabelExpression.clause?_cases (LabelExpression.clause?_eq_some_text h) with
    ⟨ho, hne, htext⟩ | ⟨ho, hne, htext⟩ | ⟨ho, hnil, htext⟩ | ⟨ho, hnil, htext⟩
  · rw [htext, LabelExpression.inOrder_of_eq rfl ho rfl]
    exact isRead_listed hk .oneOf hsorted (hsome hne)
  · rw [htext, LabelExpression.inOrder_of_eq rfl ho rfl]
    exact isRead_listed hk .noneOf hsorted (hsome hne)
  · rw [htext, LabelExpression.inOrder_of_eq rfl ho (hnone hnil)]
    exact ⟨read?_exists hk, hk.isClosed, hk.toList_ne_nil⟩
  · have hbang : ("!" ++ e.key).toList = '!' :: e.key.toList := by simp [String.toList_append]
    rw [htext, hbang, LabelExpression.inOrder_of_eq rfl ho (hnone hnil)]
    refine ⟨read?_absent hk, ?_, List.cons_ne_nil _ _⟩
    have hmark : LabelSelector.IsClosed ['!'] :=
      LabelSelector.isClosed_of_plain (by decide) (by decide) (by decide)
    exact hmark.append hk.isClosed

/-- **A clause is read as its requirement.** -/
theorem IsAdmissible.isRead (h : r.IsAdmissible) : IsRead r.text.toList r.inOrder := by
  cases r with
  | pair key value => exact isRead_pair h.1 h.2
  | expression e => exact isRead_expression h.2.1 h.2.2 h.1

end Requirement

/-! ### Selectors -/

namespace LabelSelector

variable {s s' : LabelSelector} {text : String}

/-- A selector over the keys and values that an API server admits. -/
structure IsAdmissible (s : LabelSelector) : Prop where
  /-- The pairs. -/
  labels : ∀ pair ∈ s.labels, IsLabelKey pair.1 ∧ IsLabelValue pair.2
  /-- The expressions. -/
  expressions : ∀ e ∈ s.expressions, IsLabelKey e.key ∧ ∀ v ∈ e.values, IsLabelValue v

/-- Selectors that differ at most in the order of values inside an expression and in the order of
expressions with different keys: those with one key are the same, one by one. -/
structure Reordered (s s' : LabelSelector) : Prop where
  /-- The same pairs. -/
  labels : s.labels = s'.labels
  /-- The same expressions, key by key. -/
  expressions : ∀ key, List.Forall₂ LabelExpression.Alike
    (s.expressions.filter (·.key = key)) (s'.expressions.filter (·.key = key))

/-- The requirements in the order of their keys. -/
def inOrder (s : LabelSelector) : List Requirement :=
  s.requirements.mergeSort fun a b => a.key ≤ b.key

theorem inOrder_perm (s : LabelSelector) : s.inOrder.Perm s.requirements := List.mergeSort_perm _ _

/-! ### Rendering -/

theorem mapM_clause {es : List LabelExpression} (h : ∀ e ∈ es, ¬e.IsMalformed) :
    es.mapM LabelExpression.clause = .ok (es.map fun e => (e.key, e.text)) := by
  induction es with
  | nil => rfl
  | cons e es ih =>
    have hclause : e.clause = .ok (e.key, e.text) := by
      rw [LabelExpression.clause,
        LabelExpression.clause?_eq_some_text (h e List.mem_cons_self)]
    rw [List.mapM_cons, hclause, ih fun e he => h e (List.mem_cons_of_mem _ he)]
    rfl

theorem mapM_clause_of_malformed {es : List LabelExpression} (h : ∃ e ∈ es, e.IsMalformed) :
    ∃ e ∈ es, e.IsMalformed ∧
      es.mapM LabelExpression.clause = .error (.invalidSelector e.complaint) := by
  induction es with
  | nil => simp at h
  | cons e es ih =>
    by_cases he : e.IsMalformed
    · refine ⟨e, List.mem_cons_self, he, ?_⟩
      rw [List.mapM_cons, LabelExpression.clause, LabelExpression.clause?_eq_none_iff.2 he]
      rfl
    · have hrest : ∃ e ∈ es, e.IsMalformed := by simpa [he] using h
      obtain ⟨e', hmem, he', herror⟩ := ih hrest
      refine ⟨e', List.mem_cons_of_mem e hmem, he', ?_⟩
      rw [List.mapM_cons, LabelExpression.clause, LabelExpression.clause?_eq_some_text he, herror]
      rfl

theorem labelClauses_append (s : LabelSelector) :
    s.labelClauses ++ (s.expressions.map fun e => (e.key, e.text)) =
      s.requirements.map Requirement.clause := by
  simp [labelClauses, requirements, Requirement.clause, Requirement.key, Requirement.text,
    Function.comp_def]

theorem render_of_malformed (hs : ∃ e ∈ s.expressions, e.IsMalformed) :
    ∃ e ∈ s.expressions, e.IsMalformed ∧ s.render = .error (.invalidSelector e.complaint) := by
  obtain ⟨e, he, hbad, herror⟩ := mapM_clause_of_malformed hs
  refine ⟨e, he, hbad, ?_⟩
  rw [render, herror]
  rfl

/-- **A selector is rendered unless an expression is malformed.** -/
theorem render_eq_ok_iff : s.render = .ok text ↔ (∀ e ∈ s.expressions, ¬e.IsMalformed) ∧
    text = ",".intercalate
      ((sortClauses (s.requirements.map Requirement.clause)).map Prod.snd) := by
  constructor
  · intro h
    by_cases hs : ∃ e ∈ s.expressions, e.IsMalformed
    · obtain ⟨e, -, -, herror⟩ := render_of_malformed hs
      cases herror.symm.trans h
    · have hall : ∀ e ∈ s.expressions, ¬e.IsMalformed := fun e he hbad => hs ⟨e, he, hbad⟩
      rw [render, mapM_clause hall] at h
      rw [← labelClauses_append]
      exact ⟨hall, (Except.ok.inj h).symm⟩
  · rintro ⟨hall, rfl⟩
    rw [render, mapM_clause hall, ← labelClauses_append]
    rfl

theorem sortClauses_requirements (s : LabelSelector) :
    (sortClauses (s.requirements.map Requirement.clause)).map Prod.snd =
      s.inOrder.map Requirement.text := by
  have hsort : s.inOrder.map Requirement.clause =
      sortClauses (s.requirements.map Requirement.clause) := List.map_mergeSort fun a _ b _ => rfl
  rw [← hsort, List.map_map]
  rfl

/-! ### Reading what is rendered -/

theorem IsAdmissible.requirements (h : s.IsAdmissible) (hs : ∀ e ∈ s.expressions, ¬e.IsMalformed)
    {r : Requirement} (hr : r ∈ s.requirements) : r.IsAdmissible := by
  rcases List.mem_append.1 hr with hr | hr
  · obtain ⟨pair, hpair, rfl⟩ := List.mem_map.1 hr
    exact h.labels pair hpair
  · obtain ⟨e, he, rfl⟩ := List.mem_map.1 hr
    exact ⟨hs e he, h.expressions e he⟩

theorem mapM_read? {rs : List Requirement} (h : ∀ r ∈ rs, r.IsAdmissible) :
    (rs.map fun r => r.text.toList).mapM Requirement.read? = some (rs.map Requirement.inOrder) := by
  induction rs with
  | nil => rfl
  | cons r rs ih =>
    rw [List.map_cons, List.mapM_cons, (h r List.mem_cons_self).isRead.read,
      ih fun r hr => h r (List.mem_cons_of_mem _ hr)]
    rfl

/-- **What is rendered is read as the requirements** of the selector. -/
theorem read?_of_render (h : s.IsAdmissible) (ht : s.render = .ok text) :
    read? text = some (s.inOrder.map Requirement.inOrder) := by
  obtain ⟨hs, rfl⟩ := render_eq_ok_iff.1 ht
  have hall (r : Requirement) (hr : r ∈ s.inOrder) : r.IsAdmissible :=
    h.requirements hs (s.inOrder_perm.mem_iff.1 hr)
  rw [sortClauses_requirements]
  by_cases hempty : s.inOrder = []
  · rw [hempty]
    rfl
  · have hclauses : splitOutside 0 (",".intercalate (s.inOrder.map Requirement.text)).toList =
        s.inOrder.map fun r => r.text.toList := by
      rw [String.toList_intercalate, List.map_map]
      refine splitOutside_intercalate (fun p hp => ?_) (by simpa using hempty)
      obtain ⟨r, hr, rfl⟩ := List.mem_map.1 hp
      exact (hall r hr).isRead.closed
    -- a text with a clause is not the empty text, which would be read as no clause
    have hne : ",".intercalate (s.inOrder.map Requirement.text) ≠ "" := by
      intro hnone
      obtain ⟨r, rs, hcons⟩ := List.exists_cons_of_ne_nil hempty
      rw [hnone, hcons] at hclauses
      have hr : r.text.toList = [] := (List.cons.inj hclauses).1.symm
      exact (hall r (hcons ▸ List.mem_cons_self)).isRead.ne_nil hr
    rw [read?, if_neg hne, hclauses, mapM_read? hall]

/-! ### Order -/

theorem map_eq_of_alike {α : Type} {g : LabelExpression → α} {es es' : List LabelExpression}
    (hg : ∀ e e', e.Alike e' → g e = g e') (h : List.Forall₂ LabelExpression.Alike es es') :
    es.map g = es'.map g := by
  induction h with
  | nil => rfl
  | cons h _ ih => rw [List.map_cons, List.map_cons, ih, hg _ _ h]

theorem Reordered.symm (h : s.Reordered s') : s'.Reordered s where
  labels := h.labels.symm
  expressions key := (h.expressions key).flip.imp fun _ _ halike => halike.symm

theorem filter_map_clause (es : List LabelExpression) (key : String) :
    (es.map fun e => (e.key, e.text)).filter (·.1 = key) =
      (es.filter (·.key = key)).map fun e => (e.key, e.text) := by
  rw [List.filter_map]
  rfl

theorem Reordered.isMalformed (h : s.Reordered s') (hs : ∀ e ∈ s.expressions, ¬e.IsMalformed) :
    ∀ e ∈ s'.expressions, ¬e.IsMalformed := by
  intro e he hbad
  have hmem : e ∈ s'.expressions.filter (·.key = e.key) :=
    List.mem_filter.2 ⟨he, decide_eq_true rfl⟩
  have hmap := map_eq_of_alike (fun _ _ halike => halike.clause?_eq) (h.expressions e.key)
  -- the other selector has an expression with this key that has no clause either
  have hclause : e.clause? ∈ (s.expressions.filter (·.key = e.key)).map LabelExpression.clause? :=
    hmap ▸ List.mem_map_of_mem hmem
  obtain ⟨e', he', heq⟩ := List.mem_map.1 hclause
  refine hs e' (List.mem_of_mem_filter he') (LabelExpression.clause?_eq_none_iff.1 ?_)
  rw [heq, LabelExpression.clause?_eq_none_iff.2 hbad]

/-- **The text depends neither on the order of values nor on that of expressions with different
keys.** -/
theorem render_of_reordered (h : s.Reordered s') (ht : s.render = .ok text) :
    s'.render = .ok text := by
  obtain ⟨hs, rfl⟩ := render_eq_ok_iff.1 ht
  refine render_eq_ok_iff.2 ⟨h.isMalformed hs, ?_⟩
  have hsort (clauses : List (String × String)) :
      IsStableSort Prod.fst (fun a b : String => decide (a ≤ b)) (sortClauses clauses) clauses :=
    isStableSort_mergeSort isOrder_string clauses
  rw [(hsort _).unique isOrder_string (hsort (s'.requirements.map Requirement.clause)) ?_]
  intro key
  have hexpressions : (s.expressions.filter (·.key = key)).map (fun e => (e.key, e.text)) =
      (s'.expressions.filter (·.key = key)).map fun e => (e.key, e.text) := by
    refine map_eq_of_alike (fun e e' halike => ?_) (h.expressions key)
    rw [halike.key, LabelExpression.text, halike.clause?_eq, LabelExpression.text]
  rw [← labelClauses_append, ← labelClauses_append, labelClauses, labelClauses, h.labels,
    List.filter_append, List.filter_append, filter_map_clause, filter_map_clause, hexpressions]

/-! ### What the text means -/

/-- **What is chosen by the text** is what the selector matches. -/
theorem chooses_iff_matches (h : s.IsAdmissible) (ht : s.render = .ok text) {labels : Labels} :
    Chooses text labels ↔ s.Matches labels := by
  have hread := read?_of_render h ht
  have hall : (∀ r ∈ s.inOrder.map Requirement.inOrder, r.Holds labels) ↔
      ∀ r ∈ s.requirements, r.Holds labels := by
    simp only [List.forall_mem_map, (Requirement.inOrder_alike _).holds_iff,
      s.inOrder_perm.mem_iff]
  rw [matches_iff, ← hall]
  constructor
  · rintro ⟨read, hsome, hholds⟩
    cases hread.symm.trans hsome
    exact hholds
  · intro hholds
    exact ⟨_, hread, hholds⟩

/-- **The text of a selector means the selector.**  Only a malformed expression keeps a selector
from being rendered.  The clauses of the text are the requirements of the selector, each once and
with its values in some order, so that the text chooses the labels that the selector matches; and
it does not depend on the order of values and of expressions with different keys. -/
theorem render_means (h : s.IsAdmissible) :
    ((∃ error, s.render = .error error) ↔ ∃ e ∈ s.expressions, e.IsMalformed) ∧
    (∀ error, s.render = .error error → ∃ complaint, error = .invalidSelector complaint) ∧
    (∀ text, s.render = .ok text →
      (∃ read asked, read? text = some read ∧ List.Forall₂ Requirement.Alike read asked ∧
        asked.Perm s.requirements) ∧
      ∀ labels, Chooses text labels ↔ s.Matches labels) ∧
    ∀ s', s.Reordered s' → ∀ text, s.render = .ok text ↔ s'.render = .ok text := by
  -- every error is that of the first malformed expression
  have hfails (error : GatewayError) (herror : s.render = .error error) :
      ∃ e ∈ s.expressions, e.IsMalformed ∧ error = .invalidSelector e.complaint := by
    by_cases hs : ∃ e ∈ s.expressions, e.IsMalformed
    · obtain ⟨e, he, hbad, hfirst⟩ := render_of_malformed hs
      exact ⟨e, he, hbad, Except.error.inj (herror.symm.trans hfirst)⟩
    · have hok := render_eq_ok_iff.2 ⟨fun e he hbad => hs ⟨e, he, hbad⟩, rfl⟩
      cases hok.symm.trans herror
  refine ⟨⟨fun ⟨error, herror⟩ => ?_, fun hs => ?_⟩, fun error herror => ?_,
    fun text ht => ⟨?_, fun labels => chooses_iff_matches h ht⟩, fun s' hs' text => ?_⟩
  · obtain ⟨e, he, hbad, -⟩ := hfails error herror
    exact ⟨e, he, hbad⟩
  · obtain ⟨e, -, -, herror⟩ := render_of_malformed hs
    exact ⟨_, herror⟩
  · obtain ⟨e, -, -, hcomplaint⟩ := hfails error herror
    exact ⟨e.complaint, hcomplaint⟩
  · refine ⟨_, s.inOrder, read?_of_render h ht, ?_, s.inOrder_perm⟩
    exact List.forall₂_map_left_iff.2 (List.forall₂_same.2 fun r _ => r.inOrder_alike)
  · exact ⟨render_of_reordered hs', render_of_reordered hs'.symm⟩

/-- A key may be asked about twice, values may be empty, and lists of values are put in order. -/
theorem render_means_mixed :
    let s : LabelSelector := ⟨[("app", "web"), ("tier", "")],
      [⟨"env", "NotIn", ["prod", "dev", ""]⟩, ⟨"app", "Exists", []⟩, ⟨"old", "DoesNotExist", []⟩]⟩
    let text := "app=web,app,env notin (,dev,prod),!old,tier="
    s.IsAdmissible ∧ s.render = .ok text ∧ ∀ labels, Chooses text labels ↔ s.Matches labels := by
  intro s text
  have hs : s.IsAdmissible := ⟨by decide, by decide⟩
  have ht : s.render = .ok text := by
    simp [s, text, render, labelClauses, sortClauses, LabelExpression.clause,
      LabelExpression.clause?, LabelExpression.sortedValues, List.mergeSort,
      List.MergeSort.Internal.splitInTwo, pure, Except.pure, Except.map, bind, Except.bind]
  exact ⟨hs, ht, ((render_means hs).2.2.1 text ht).2⟩

end LabelSelector

end ClusterGateway
