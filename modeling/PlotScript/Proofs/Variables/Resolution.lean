import Mathlib.Logic.Relation
import PlotScript.Proofs.Variables.Substitution
import PlotScript.Variables.Scope

/-!
# Resolving variables

What a name stands for is its text, or its expression with every reference replaced by
what the name referred to stands for. This knows no depth, while resolving a name stops
where more than 64 expressions would lie one inside the other.
`resolve_eq_substitution` says that resolving finds what a name stands for whenever the
names that references lead to are all bound, their brackets are closed, and no trail of
references passes more than 64 expressions, and that it fails in all other cases.
-/

namespace PlotScript.Scope

open Expression (Replaced RefersTo IsClosed)
open Relation (ReflTransGen TransGen)

variable {scope : Scope} {name : String} {limit : Nat}

/-- What a name stands for, with every reference of every expression replaced. -/
inductive StandsFor (scope : Scope) : String → String → Prop
  | eager {name text : String} (bound : scope.get? name = some (.eager text)) :
      StandsFor scope name text
  | deferred {name expression : String} {t : List Char}
      (bound : scope.get? name = some (.deferred expression))
      (replaced : Replaced (StandsFor scope) expression.toList t) :
      StandsFor scope name (String.ofList t)

/-! ## Trails of references -/

/-- The expression of a name refers to another name. -/
def Leads (scope : Scope) (name next : String) : Prop :=
  ∃ expression, scope.get? name = some (.deferred expression) ∧ RefersTo expression.toList next

/-- The names on a way along references from a name on. -/
inductive Trail (scope : Scope) : String → List String → Prop
  | here (name : String) : Trail scope name [name]
  | onward {name next : String} {names : List String} (leads : scope.Leads name next)
      (trail : Trail scope next names) : Trail scope name (name :: names)

def isDeferred (scope : Scope) (name : String) : Bool :=
  match scope.get? name with
  | some (.deferred _) => true
  | _ => false

/-- Every name that references lead to is bound, every expression on the way has its
brackets closed, and no trail passes more expressions than the limit, those that it passes
again included. -/
structure WithinLimit (scope : Scope) (limit : Nat) (name : String) : Prop where
  bound : ∀ names, scope.Trail name names → ∀ m ∈ names, scope.get? m ≠ none
  closed : ∀ names, scope.Trail name names → ∀ m ∈ names, ∀ expression,
    scope.get? m = some (.deferred expression) → IsClosed expression.toList
  shallow : ∀ names, scope.Trail name names → names.countP scope.isDeferred ≤ limit

/-- From a text no reference leads on. -/
theorem Trail.eq_of_eager {text : String} (bound : scope.get? name = some (.eager text))
    {names : List String} (trail : scope.Trail name names) : names = [name] := by
  cases trail with
  | here => rfl
  | onward leads =>
      obtain ⟨expression, deferred, -⟩ := leads
      rw [bound] at deferred
      cases deferred

/-- From an expression a trail goes on to a name that it refers to. -/
theorem Trail.eq_or_onward {expression : String}
    (bound : scope.get? name = some (.deferred expression)) {names : List String}
    (trail : scope.Trail name names) :
    names = [name] ∨ ∃ next rest, names = name :: rest ∧ RefersTo expression.toList next ∧
      scope.Trail next rest := by
  cases trail with
  | here => exact .inl rfl
  | @onward _ next rest leads trail =>
      obtain ⟨other, deferred, refers⟩ := leads
      rw [bound] at deferred
      obtain rfl : expression = other := by simpa using deferred
      exact .inr ⟨next, rest, rfl, refers, trail⟩

theorem withinLimit_of_eager {text : String} (bound : scope.get? name = some (.eager text))
    (limit : Nat) : scope.WithinLimit limit name := by
  refine ⟨fun names trail m member => ?_, fun names trail m member e deferred => ?_,
    fun names trail => ?_⟩
  all_goals obtain rfl := trail.eq_of_eager bound
  · obtain rfl := List.mem_singleton.1 member
    rw [bound]
    exact Option.some_ne_none _
  · obtain rfl := List.mem_singleton.1 member
    rw [bound] at deferred
    cases deferred
  · simp [isDeferred, bound]

theorem not_withinLimit_of_unbound (unbound : scope.get? name = none) :
    ¬ scope.WithinLimit limit name :=
  fun within => within.bound [name] (.here name) name List.mem_cons_self unbound

section Deferred

variable {expression : String} (bound : scope.get? name = some (.deferred expression))
include bound

theorem isDeferred_of_deferred : scope.isDeferred name = true := by
  rw [isDeferred, bound]

theorem not_withinLimit_zero : ¬ scope.WithinLimit 0 name := by
  intro within
  have short := within.shallow [name] (.here name)
  rw [List.countP_cons_of_pos (isDeferred_of_deferred bound)] at short
  omega

/-- An expression is one more that a trail passes. -/
theorem withinLimit_succ_iff :
    scope.WithinLimit (limit + 1) name ↔
      IsClosed expression.toList ∧
        ∀ next, RefersTo expression.toList next → scope.WithinLimit limit next := by
  have isDeferred := isDeferred_of_deferred bound
  constructor
  · intro within
    refine ⟨within.closed [name] (.here name) name List.mem_cons_self expression bound,
      fun next refers => ?_⟩
    have leads : scope.Leads name next := ⟨expression, bound, refers⟩
    refine ⟨fun names trail m member => ?_, fun names trail m member => ?_, fun names trail => ?_⟩
    · exact within.bound _ (.onward leads trail) m (List.mem_cons_of_mem _ member)
    · exact within.closed _ (.onward leads trail) m (List.mem_cons_of_mem _ member)
    · have longer := within.shallow _ (.onward leads trail)
      rw [List.countP_cons_of_pos isDeferred] at longer
      omega
  · rintro ⟨closed, within⟩
    refine ⟨fun names trail m member => ?_, fun names trail m member e deferred => ?_,
      fun names trail => ?_⟩
    · rcases trail.eq_or_onward bound with rfl | ⟨next, rest, rfl, refers, trail⟩
      · obtain rfl := List.mem_singleton.1 member
        rw [bound]
        exact Option.some_ne_none _
      · rcases List.mem_cons.1 member with rfl | member
        · rw [bound]
          exact Option.some_ne_none _
        · exact (within next refers).bound rest trail m member
    · have here : m = name → IsClosed e.toList := by
        rintro rfl
        rw [bound] at deferred
        obtain rfl : expression = e := by simpa using deferred
        exact closed
      rcases trail.eq_or_onward bound with rfl | ⟨next, rest, rfl, refers, trail⟩
      · exact here (List.mem_singleton.1 member)
      · rcases List.mem_cons.1 member with same | member
        · exact here same
        · exact (within next refers).closed rest trail m member e deferred
    · rcases trail.eq_or_onward bound with rfl | ⟨next, rest, rfl, refers, trail⟩
      · rw [List.countP_cons_of_pos isDeferred, List.countP_nil]
        omega
      · have shorter := (within next refers).shallow rest trail
        rw [List.countP_cons_of_pos isDeferred]
        omega

end Deferred

/-- A name is within a limit if it is bound to a text, or if its expression leads to names
that are within the limit below. -/
theorem withinLimit_iff :
    scope.WithinLimit limit name ↔
      (∃ text, scope.get? name = some (.eager text)) ∨
        ∃ expression less, scope.get? name = some (.deferred expression) ∧ limit = less + 1 ∧
          IsClosed expression.toList ∧
            ∀ next, RefersTo expression.toList next → scope.WithinLimit less next := by
  constructor
  · intro within
    match bound : scope.get? name with
    | none => exact absurd within (not_withinLimit_of_unbound bound)
    | some (.eager text) => exact .inl ⟨text, rfl⟩
    | some (.deferred expression) =>
        cases limit with
        | zero => exact absurd within (not_withinLimit_zero bound)
        | succ less =>
            exact .inr ⟨expression, less, rfl, rfl, (withinLimit_succ_iff bound).1 within⟩
  · rintro (⟨text, bound⟩ | ⟨expression, less, bound, rfl, within⟩)
    · exact withinLimit_of_eager bound limit
    · exact (withinLimit_succ_iff bound).2 within

/-! ### Trails that come back -/

/-- A step along a reference passes an expression. -/
theorem WithinLimit.of_leads {next : String} (within : scope.WithinLimit limit name)
    (leads : scope.Leads name next) : ∃ less < limit, scope.WithinLimit less next := by
  obtain ⟨expression, bound, refers⟩ := leads
  cases limit with
  | zero => exact absurd within (not_withinLimit_zero bound)
  | succ less =>
      exact ⟨less, Nat.lt_succ_self less, ((withinLimit_succ_iff bound).1 within).2 next refers⟩

theorem WithinLimit.of_transGen {last : String} (leads : TransGen scope.Leads name last) :
    ∀ {limit}, scope.WithinLimit limit name → ∃ less < limit, scope.WithinLimit less last := by
  induction leads with
  | single leads => exact fun within => within.of_leads leads
  | tail _ leads ih =>
      intro limit within
      obtain ⟨less, shorter, behind⟩ := ih within
      obtain ⟨least, shortest, last⟩ := behind.of_leads leads
      exact ⟨least, Nat.lt_trans shortest shorter, last⟩

/-- A name that leads back to itself is within no limit. -/
theorem not_withinLimit_of_cycle (cycle : TransGen scope.Leads name name) :
    ¬ scope.WithinLimit limit name := by
  induction limit using Nat.strongRecOn with
  | ind limit ih =>
      intro within
      obtain ⟨less, shorter, again⟩ := WithinLimit.of_transGen cycle within
      exact ih less shorter again

theorem not_withinLimit_of_reaches_cycle {m : String} (reaches : ReflTransGen scope.Leads name m)
    (cycle : TransGen scope.Leads m m) : ¬ scope.WithinLimit limit name := by
  intro within
  obtain ⟨less, -, last⟩ := WithinLimit.of_transGen (TransGen.trans_right reaches cycle) within
  exact not_withinLimit_of_cycle cycle last

/-! ## Resolving with room for expressions -/

theorem required_eq_ok_iff {resolve : String → Except Cause (Option String)} {v : String} :
    required resolve name = .ok v ↔ resolve name = .ok (some v) := by
  rw [required]
  rcases resolve name with cause | _ | w
  · constructor <;> rintro ⟨⟩
  · constructor <;> rintro ⟨⟩
  · constructor
    · rintro ⟨⟩
      rfl
    · rintro ⟨⟩
      rfl

/-- Only a name without a binding has no text. -/
theorem resolveWithin_eq_none_iff {room : Nat} :
    scope.resolveWithin room name = .ok none ↔ scope.get? name = none := by
  rw [resolveWithin.eq_def]
  split
  · rename_i unbound
    simp [unbound]
  · rename_i text bound
    simp [bound]
  · rename_i expression bound
    rw [bound]
    constructor
    · intro h
      split at h
      · cases h
      · obtain ⟨t, -, same⟩ := exists_of_map_eq_ok h
        cases same
    · rintro ⟨⟩

/-- A name has the text that it is bound to, or its expression is expanded with room for
one expression less. -/
theorem resolveWithin_eq_some_iff {room : Nat} {text : String} :
    scope.resolveWithin room name = .ok (some text) ↔
      scope.get? name = some (.eager text) ∨
        ∃ expression less, scope.get? name = some (.deferred expression) ∧ room = less + 1 ∧
          ∃ t, String.ofList t = text ∧
            Replaced (fun next v => scope.resolveWithin less next = .ok (some v))
              expression.toList t := by
  have expands := fun less e t =>
    @Expression.concat_expand_eq_ok_iff (required (scope.resolveWithin less)) e t
  simp only [required_eq_ok_iff] at expands
  simp only [← expands]
  rw [resolveWithin.eq_def]
  split
  · rename_i unbound
    simp [unbound]
  · rename_i other bound
    simp [bound]
  · rename_i expression bound
    rw [bound]
    constructor
    · intro h
      split at h
      · cases h
      · obtain ⟨t, expanded, same⟩ := exists_of_map_eq_ok h
        exact .inr ⟨expression, _, rfl, rfl, t, Option.some.inj same, expanded⟩
    · rintro (⟨⟨⟩⟩ | ⟨e, less, same, rfl, t, rfl, expanded⟩)
      obtain rfl : expression = e := by simpa using same
      simp only [expanded]
      rfl

theorem withinLimit_of_resolveWithin {room : Nat} {text : String}
    (h : scope.resolveWithin room name = .ok (some text)) : scope.WithinLimit room name := by
  induction room using Nat.strongRecOn generalizing name text with
  | ind room ih =>
      rcases resolveWithin_eq_some_iff.1 h with bound | ⟨e, less, bound, rfl, t, -, replaced⟩
      · exact withinLimit_of_eager bound room
      · obtain ⟨closed, valued⟩ := replaced.isClosed_and_valued
        refine (withinLimit_succ_iff bound).2 ⟨closed, fun next refers => ?_⟩
        obtain ⟨v, value⟩ := valued next refers
        exact ih less (Nat.lt_succ_self less) value

theorem exists_resolveWithin_of_withinLimit (within : scope.WithinLimit limit name) :
    ∃ text, scope.resolveWithin limit name = .ok (some text) := by
  induction limit using Nat.strongRecOn generalizing name with
  | ind limit ih =>
      rcases withinLimit_iff.1 within with ⟨text, bound⟩ | ⟨e, less, bound, rfl, closed, onward⟩
      · exact ⟨text, resolveWithin_eq_some_iff.2 (.inl bound)⟩
      · obtain ⟨t, replaced⟩ := Expression.exists_replaced_iff.2
          ⟨closed, fun next refers => ih less (Nat.lt_succ_self less) (onward next refers)⟩
        exact ⟨_, resolveWithin_eq_some_iff.2 (.inr ⟨e, less, bound, rfl, t, rfl, replaced⟩)⟩

/-- A text that is found is what the name stands for. -/
theorem standsFor_of_resolveWithin {room : Nat} {text : String}
    (h : scope.resolveWithin room name = .ok (some text)) : scope.StandsFor name text := by
  induction room using Nat.strongRecOn generalizing name text with
  | ind room ih =>
      rcases resolveWithin_eq_some_iff.1 h with bound | ⟨e, less, bound, rfl, t, rfl, replaced⟩
      · exact .eager bound
      · exact .deferred bound (replaced.mono fun _ _ => ih less (Nat.lt_succ_self less))

/-- A name stands for nothing else than the text that is found. -/
theorem eq_of_standsFor {room : Nat} {text other : String}
    (h : scope.resolveWithin room name = .ok (some text)) (stands : scope.StandsFor name other) :
    text = other := by
  induction room using Nat.strongRecOn generalizing name text other with
  | ind room ih =>
      rcases resolveWithin_eq_some_iff.1 h with bound | ⟨e, less, bound, rfl, t, rfl, replaced⟩
      · cases stands with
        | eager same => simpa [bound] using same
        | deferred different =>
            rw [bound] at different
            cases different
      · cases stands with
        | eager different =>
            rw [bound] at different
            cases different
        | deferred same again =>
            rw [bound] at same
            obtain rfl := Binding.deferred.inj (Option.some.inj same)
            have agree : ∀ next v w, scope.resolveWithin less next = .ok (some v) →
                scope.StandsFor next w → v = w :=
              fun _ _ _ found => ih less (Nat.lt_succ_self less) found
            exact congrArg String.ofList (replaced.unique agree again)

/-! ### Why there is no text -/

theorem kind_of_concat_eq_error {lookup : String → Except Cause String}
    (kinds : ∀ name cause, lookup name = .error cause → cause.kind = .grammar) {s : List Char}
    {cause : Cause}
    (h : Piece.concat (Piece.expand lookup) (Piece.ofExpression s) = .error cause) :
    cause.kind = .grammar := by
  fun_induction Piece.ofExpression s with
  | case1 => cases h
  | case2 _ _ _ ih => exact ih (Piece.concat_eq_error_of_ok rfl h)
  | case3 rest fault unreadable =>
      rcases Piece.concat_cons_eq_error h with here | behind
      · obtain rfl := Except.error.inj here
        exact (Reference.exists_bracket_of_read_error unreadable).2
      · cases behind
  | case4 _ _ _ ih => exact ih (Piece.concat_eq_error_of_ok rfl h)
  | case5 rest r after _ _ _ ih =>
      rcases Piece.concat_cons_eq_error h with here | behind
      · exact kinds _ cause (error_of_map_eq_error here)
      · exact ih behind
  | case6 _ _ _ _ ih => exact ih (Piece.concat_eq_error_of_ok rfl h)

theorem kind_of_required_eq_error {resolve : String → Except Cause (Option String)}
    (kinds : ∀ cause, resolve name = .error cause → cause.kind = .grammar) {cause : Cause}
    (h : required resolve name = .error cause) : cause.kind = .grammar := by
  rw [required] at h
  rcases found : resolve name with other | _ | v
  · rw [found] at h
    obtain rfl := Except.error.inj h
    exact kinds _ found
  · rw [found] at h
    obtain rfl := Except.error.inj h
    rfl
  · rw [found] at h
    cases h

theorem kind_of_resolveWithin_eq_error {room : Nat} {cause : Cause}
    (h : scope.resolveWithin room name = .error cause) : cause.kind = .grammar := by
  induction room using Nat.strongRecOn generalizing name cause with
  | ind room ih =>
      rw [resolveWithin.eq_def] at h
      split at h
      · cases h
      · cases h
      · split at h
        · obtain rfl := Except.error.inj h
          rfl
        · exact kind_of_concat_eq_error
            (fun _ _ => kind_of_required_eq_error fun _ => ih _ (Nat.lt_succ_self _))
            (error_of_map_eq_error h)

/-- Resolving a name is substitution without a bound on every scope that needs at most 64
expressions one inside the other. A name has no text exactly when it is not bound. It has
one exactly when all names that references lead to are bound, their brackets are closed and
no trail passes more than 64 expressions, and then it is the text that the name stands for.
All else is a syntax error, above all a name from which references lead into a cycle. -/
theorem resolve_eq_substitution (scope : Scope) (name : String) :
    (scope.resolve name = .ok none ↔ scope.get? name = none) ∧
    ((∃ text, scope.resolve name = .ok (some text)) ↔ scope.WithinLimit 64 name) ∧
    (∀ text, scope.resolve name = .ok (some text) ↔
      scope.WithinLimit 64 name ∧ scope.StandsFor name text) ∧
    (∀ cause, scope.resolve name = .error cause → cause.kind = .grammar) ∧
    ∀ m, ReflTransGen scope.Leads name m → TransGen scope.Leads m m →
      ∃ cause, scope.resolve name = .error cause ∧ cause.kind = .grammar := by
  have some_iff : (∃ text, scope.resolve name = .ok (some text)) ↔ scope.WithinLimit 64 name :=
    ⟨fun ⟨_, h⟩ => withinLimit_of_resolveWithin h, exists_resolveWithin_of_withinLimit⟩
  refine ⟨resolveWithin_eq_none_iff, some_iff, fun text => ⟨fun h => ?_, ?_⟩,
    fun _ => kind_of_resolveWithin_eq_error, fun m reaches cycle => ?_⟩
  · exact ⟨withinLimit_of_resolveWithin h, standsFor_of_resolveWithin h⟩
  · rintro ⟨within, stands⟩
    obtain ⟨found, h⟩ := some_iff.2 within
    rw [h, eq_of_standsFor h stands]
  · have beyond : ¬ scope.WithinLimit 64 name := not_withinLimit_of_reaches_cycle reaches cycle
    rcases h : scope.resolve name with cause | _ | text
    · exact ⟨cause, rfl, kind_of_resolveWithin_eq_error h⟩
    -- a name without a binding leads nowhere
    · obtain ⟨next, ⟨expression, bound, -⟩, -⟩ :=
        TransGen.head'_iff.1 (TransGen.trans_right reaches cycle)
      rw [resolveWithin_eq_none_iff.1 h] at bound
      cases bound
    · exact absurd (some_iff.1 ⟨text, h⟩) beyond

/-- A variable has no text if one that it refers to refers to itself. -/
theorem resolve_title_of_self_reference :
    ∃ cause, resolve (.ofList [("size", .eager "12"), ("text", .deferred "a $text"),
      ("title", .deferred "$(size)pt $text")]) "title" = .error cause ∧ cause.kind = .grammar := by
  have front : Reference.AtFront "text".toList "text".toList [] :=
    @Reference.AtFront.bare 't' ['e', 'x', 't'] [] rfl (by simp [Reference.isNameChar]) nofun
  refine (resolve_eq_substitution _ "title").2.2.2.2 "text" (.single ⟨_, rfl, ?_⟩)
    (.single ⟨_, rfl, ?_⟩)
  · exact ⟨_, [], ⟨"$(size)pt ".toList, rfl, by decide⟩, front⟩
  · exact ⟨_, [], ⟨"a ".toList, rfl, by decide⟩, front⟩

end PlotScript.Scope
