import ODataRequest.Proofs.Pairing
namespace ODataRequest.Signature

/-- Operands that have to be given, then one that may be repeated, then directives that may be
left out. -/
structure Trailing (s : Signature) (required : List Parameter) (p : Parameter)
    (options : List Parameter) : Prop where
  parameters : s.parameters = required ++ p :: options
  required : ∀ q ∈ required, q.repeated = false ∧ q.optional = false ∧ q.directiveKind? = none
  repeated : p.repeated = true ∧ p.directiveKind? = none
  options : ∀ q ∈ options, q.repeated = false ∧ q.optional = true ∧ q.directiveKind?.isSome = true

/-- The arguments are directives for some of the parameters, in their order. -/
abbrev Chosen (args : List Expr) (parameters : List Parameter) : Prop :=
  List.SublistForall₂ (fun e p => e.matchesDirective p = true) args parameters

/-- Which argument goes to which parameter: the further operands all to the repeated one. -/
def trailingPairs (required : List Parameter) (p : Parameter) (taken : List Parameter)
    (firsts extras directives : List Expr) : List (Expr × Parameter) :=
  firsts.zip required ++ (extras.map (·, p) ++ directives.zip taken)

def callOf (s : Signature) (receiver : Option Expr) (pairs : List (Expr × Parameter)) : Expr :=
  .call ⟨receiver, pairs.map (typeConstant (bind pairs)), s, bind pairs⟩

section Pairs

variable {required parameters options taken : List Parameter} {p : Parameter}
  {firsts extras directives args lost : List Expr} {pairs : List (Expr × Parameter)}

theorem chosen_length (chosen : Chosen directives options) :
    directives.length ≤ options.length := by
  rcases List.sublistForall₂_iff.mp chosen with ⟨taken, each, sublist⟩
  rw [each.length_eq]
  exact sublist.length_le

theorem chosen_tail {e : Expr} (chosen : Chosen (e :: directives) options) :
    Chosen directives options := by
  rcases List.sublistForall₂_iff.mp chosen with ⟨taken, each, sublist⟩
  cases each with
  | @cons _ q _ taken _ each =>
    exact List.sublistForall₂_iff.mpr ⟨taken, each, (List.sublist_cons_self q taken).trans sublist⟩

theorem fits_of_directive {e : Expr} (kind : p.directiveKind?.isSome = true) :
    e.fits p = e.matchesDirective p := by
  rcases Option.isSome_iff_exists.mp kind with ⟨kind, declared⟩
  unfold Expr.fits
  rw [declared]

theorem matchesDirective_ordinary {e : Expr} (ordinary : ∀ d, e ≠ .directive d) (p : Parameter) :
    e.matchesDirective p = false := by
  cases e with
  | directive d => exact absurd rfl (ordinary d)
  | _ => rfl

/-- Each directive goes to the first parameter left that declares one of its kind. -/
theorem pairing_options
    (optional : ∀ q ∈ options, q.repeated = false ∧ q.optional = true ∧
      q.directiveKind?.isSome = true)
    (chosen : Chosen directives options) :
    ∃ taken, taken.Sublist options ∧
      List.Forall₂ (fun e p => e.matchesDirective p = true) directives taken ∧
      Pairing options directives (directives.zip taken) [] := by
  induction options generalizing directives with
  | nil =>
    cases chosen
    exact ⟨[], .slnil, .nil, .done⟩
  | cons q options ih =>
    rcases List.forall_mem_cons.mp optional with ⟨⟨once, omissible, kind⟩, optional⟩
    cases directives with
    | nil =>
      rcases ih optional .nil with ⟨taken, sublist, each, walk⟩
      exact ⟨taken, sublist.cons _, each, .passed once omissible (by simp) walk⟩
    | cons e directives =>
      -- The first parameter that fits is taken; the later ones are enough for the others.
      by_cases fitting : e.matchesDirective q = true
      · have others : Chosen directives options := by
          cases chosen with
          | cons _ others => exact others
          | cons_right chosen => exact chosen_tail chosen
        rcases ih optional others with ⟨taken, sublist, each, walk⟩
        refine ⟨q :: taken, sublist.cons_cons q, .cons fitting each, ?_⟩
        exact .taken once (fun _ => (fits_of_directive kind).trans fitting) walk
      · have others : Chosen (e :: directives) options := by
          cases chosen with
          | cons fits _ => exact absurd fits fitting
          | cons_right chosen => exact chosen
        rcases ih optional others with ⟨taken, sublist, each, walk⟩
        refine ⟨taken, sublist.cons _, each, .passed once omissible ?_ walk⟩
        intro first head
        cases head
        rw [fits_of_directive kind]
        exact Bool.eq_false_iff.mpr fitting

theorem not_pairing_options {e : Expr} (ordinary : ∀ d, e ≠ .directive d)
    (optional : ∀ q ∈ options, q.repeated = false ∧ q.optional = true ∧
      q.directiveKind?.isSome = true) :
    ¬Pairing options (e :: args) pairs lost := by
  intro walk
  induction options generalizing pairs lost with
  | nil => cases walk
  | cons q options ih =>
    rcases List.forall_mem_cons.mp optional with ⟨⟨once, omissible, kind⟩, optional⟩
    cases walk with
    | passed _ _ _ walk => exact ih optional walk
    | taken _ fitting _ =>
      have fits := fitting omissible
      rw [fits_of_directive kind, matchesDirective_ordinary ordinary] at fits
      cases fits
    | absorbed repeated | closed repeated | swallowed repeated =>
      rw [once] at repeated
      cases repeated

theorem pairing_of_required
    (single : ∀ q ∈ required, q.repeated = false ∧ q.optional = false ∧ q.directiveKind? = none)
    (enough : firsts.length = required.length)
    (walk : Pairing (required ++ parameters) (firsts ++ args) pairs lost) :
    ∃ pairs', Pairing parameters args pairs' lost := by
  induction required generalizing firsts pairs with
  | nil =>
    cases List.length_eq_zero_iff.mp enough
    exact ⟨pairs, walk⟩
  | cons q required ih =>
    cases firsts with
    | nil => cases enough
    | cons e firsts =>
      rcases List.forall_mem_cons.mp single with ⟨⟨once, needed, _⟩, single⟩
      cases walk with
      | passed _ optional =>
        rw [needed] at optional
        cases optional
      | taken _ _ walk => exact ih single (Nat.succ.inj enough) walk
      | absorbed repeated | closed repeated | swallowed repeated =>
        rw [once] at repeated
        cases repeated

theorem not_pairing_extras (repeated : p.repeated = true ∧ p.directiveKind? = none)
    (optional : ∀ q ∈ options, q.repeated = false ∧ q.optional = true ∧
      q.directiveKind?.isSome = true)
    (ordinary : ∀ e ∈ extras, ∀ d, e ≠ .directive d) (filled : extras ≠ [])
    (fewer : directives.length < options.length) :
    ¬Pairing (p :: options) (extras ++ directives) pairs lost := by
  intro walk
  induction extras generalizing pairs lost with
  | nil => exact filled rfl
  | cons e extras ih =>
    rcases List.forall_mem_cons.mp ordinary with ⟨first, ordinary⟩
    cases walk with
    | passed once | taken once =>
      rw [repeated.1] at once
      cases once
    | absorbed _ enough _ walk =>
      -- The last one is not absorbed: behind it there is less than the options.
      apply ih ordinary _ walk
      rintro rfl
      exact absurd enough (Nat.not_le.mpr fewer)
    | closed _ _ walk => exact not_pairing_options first optional walk
    | swallowed _ _ kind =>
      rw [repeated.2] at kind
      cases kind

end Pairs

section Calls

variable {s : Signature} {required options : List Parameter} {p : Parameter}
  {firsts extras directives : List Expr}

theorem apply_of_room (shape : s.Trailing required p options)
    (enough : firsts.length = required.length) (chosen : Chosen directives options)
    (room : extras = [] ∨ directives.length = options.length) (receiver : Option Expr) :
    ∃ taken, taken.Sublist options ∧
      List.Forall₂ (fun e q => e.matchesDirective q = true) directives taken ∧
      s.apply receiver (firsts ++ (extras ++ directives)) =
        .ok (s.callOf receiver (trailingPairs required p taken firsts extras directives)) := by
  rcases pairing_options shape.options chosen with ⟨taken, sublist, each, walk⟩
  refine ⟨taken, sublist, each, ?_⟩
  have closed : Pairing (p :: options) directives (directives.zip taken) [] :=
    .closed shape.repeated.1 (chosen_length chosen) walk
  have absorbed : Pairing (p :: options) (extras ++ directives)
      (extras.map (·, p) ++ directives.zip taken) [] := by
    rcases room with rfl | same
    · exact closed
    · exact pairing_extras shape.repeated.1 shape.repeated.2 (Nat.le_of_eq same.symm) closed
  have single : ∀ q ∈ required, q.repeated = false ∧ q.optional = false :=
    fun q member => ⟨(shape.required q member).1, (shape.required q member).2.1⟩
  apply apply_of_pairing
  rw [shape.parameters]
  exact pairing_required single enough absorbed

theorem apply_of_no_room (shape : s.Trailing required p options)
    (enough : firsts.length = required.length)
    (ordinary : ∀ e ∈ extras, ∀ d, e ≠ .directive d) (chosen : Chosen directives options)
    (full : ¬(extras = [] ∨ directives.length = options.length)) (receiver : Option Expr) :
    s.apply receiver (firsts ++ (extras ++ directives)) = .error (.argumentCount s.name s.arityText
      (firsts ++ (extras ++ directives)).length) := by
  rcases not_or.mp full with ⟨filled, different⟩
  have fewer : directives.length < options.length :=
    Nat.lt_of_le_of_ne (chosen_length chosen) different
  apply apply_of_unpaired
  intro pairs lost walk
  rw [shape.parameters] at walk
  rcases pairing_of_required shape.required enough walk with ⟨pairs', walk⟩
  exact not_pairing_extras shape.repeated shape.options ordinary filled fewer walk

/-- Directives behind a repeated operand can be left out only if nothing was given for the operand:
otherwise the call needs all of them. If it comes about, every operand beyond the required ones
goes to the repeated parameter. -/
theorem apply_trailing_iff (shape : s.Trailing required p options)
    (enough : firsts.length = required.length)
    (ordinary : ∀ e ∈ extras, ∀ d, e ≠ .directive d) (chosen : Chosen directives options)
    (receiver : Option Expr) :
    (extras = [] ∨ directives.length = options.length → ∃ taken, taken.Sublist options ∧
      List.Forall₂ (fun e q => e.matchesDirective q = true) directives taken ∧
      s.apply receiver (firsts ++ (extras ++ directives)) =
        .ok (s.callOf receiver (trailingPairs required p taken firsts extras directives))) ∧
    (¬(extras = [] ∨ directives.length = options.length) →
      s.apply receiver (firsts ++ (extras ++ directives)) =
        .error (.argumentCount s.name s.arityText (firsts ++ (extras ++ directives)).length)) :=
  ⟨fun room => apply_of_room shape enough chosen room receiver,
    fun full => apply_of_no_room shape enough ordinary chosen full receiver⟩

end Calls

def listed : Signature :=
  .declared "listed" .filter
    [Builtin.untyped "first", (Builtin.untyped "more").asRepeated, Builtin.format] (.type .boolean)
    (.joined ",")

theorem trailing_listed : listed.Trailing [Builtin.untyped "first"]
    (Builtin.untyped "more").asRepeated [Builtin.format] where
  parameters := rfl
  required := by decide
  repeated := by decide
  options := by decide

def everyText (text : String) : Directive := .format ⟨.int64, .item fun _ => text⟩

/-- With the format given, the further expression goes to the repeated parameter; without the
format, the same expressions are refused. -/
theorem apply_trailing_iff_listed :
    (∃ c, listed.apply none [.member none "A" .int64, .member none "B" .int64,
        .directive (everyText "1")] = .ok (.call c) ∧
      c.args.map (fun argument => argument.2.name) = ["first", "more", "mapper"]) ∧
    listed.apply none [.member none "A" .int64, .member none "B" .int64] =
      .error (.argumentCount "listed" "at least 1" 2) := by
  have enough : [Expr.member none "A" .int64].length = [Builtin.untyped "first"].length := rfl
  have ordinary : ∀ e ∈ [Expr.member none "B" .int64], ∀ d, e ≠ .directive d := by
    intro e member d
    cases List.mem_singleton.mp member
    exact fun same => nomatch same
  constructor
  · have chosen : Chosen [.directive (everyText "1")] [Builtin.format] := .cons rfl .nil
    rcases (apply_trailing_iff trailing_listed enough ordinary chosen none).1 (.inr rfl) with
      ⟨taken, sublist, each, applied⟩
    refine ⟨_, applied, ?_⟩
    cases each with
    | @cons _ q _ _ _ others =>
      cases others
      cases List.mem_singleton.mp (sublist.subset List.mem_cons_self)
      rfl
  · exact (apply_trailing_iff trailing_listed enough ordinary .nil none).2 (by simp)

/-- Two paths for a signature that needs one, takes any number of further ones and lets its format
be left out: the format is left out, and the call is refused. -/
theorem format_not_left_out :
    listed.Trailing [Builtin.untyped "first"] (Builtin.untyped "more").asRepeated
      [Builtin.format] ∧
    Chosen [] [Builtin.format] ∧
    listed.apply none ([.member none "A" .int64] ++ ([.member none "B" .int64] ++ [])) =
      .error (.argumentCount "listed" "at least 1" 2) :=
  ⟨trailing_listed, .nil, rfl⟩

end ODataRequest.Signature
