import UriExpansion.Proofs.CommandLine.Assignment

/-!
How the command that expands a template ends. The template is judged first, the file next
and the assignments last, up to the first that is none; only then there are variables, in
which the values assigned to a name go behind what the file binds it to.
-/

namespace UriExpansion

namespace Variables

/-- Every name is bound to what the texts that pairs give to it make of its first value. -/
def IsExtended (start : Variables) (pairs : List (String × String)) (values : Variables) :
    Prop :=
  ∀ name, values.get? name = Value.afterTexts (start.get? name) (textsFor name pairs)

theorem isExtended_iff {start values : Variables} {pairs : List (String × String)} :
    IsExtended start pairs values ↔ values = start.appendTexts pairs := by
  constructor
  · intro extended
    exact ext_get? fun name => by rw [extended name, get?_appendTexts]
  · rintro rfl name
    exact get?_appendTexts start pairs name

/-- The order of texts for different names does not matter. -/
theorem appendTexts_congr {pairs others : List (String × String)}
    (same : ∀ name, textsFor name pairs = textsFor name others) (start : Variables) :
    start.appendTexts pairs = start.appendTexts others :=
  isExtended_iff.mp fun name => by rw [get?_appendTexts, same name]

end Variables

namespace CommandLine.ExpandCommand

variable {command : ExpandCommand} {files : Files}

/-- How the variables are gathered. A file without bindings comes before any assignment, and
of several texts that are no assignments the first is told. -/
inductive Gathers (command : ExpandCommand) (files : Files) :
    Except ExpandError Variables → Prop
  | cannotStart {error : ExpandError} :
      command.CannotStart files error → Gathers command files (.error error)
  | invalidAssignment {start : Variables} {before after : List String}
      {pairs : List (String × String)} {text : String} :
      command.StartsFrom files start → command.assignments = before ++ text :: after →
      AreAssignments before pairs → IsMalformed text →
      Gathers command files (.error (.invalidAssignment text))
  | extended {start values : Variables} {pairs : List (String × String)} :
      command.StartsFrom files start → AreAssignments command.assignments pairs →
      start.IsExtended pairs values → Gathers command files (.ok values)

/-- How the command ends. A text that is no template comes before all other faults. -/
inductive Ends (command : ExpandCommand) (files : Files) : Except ExpandError String → Prop
  | invalidTemplate {error : TemplateError} :
      Template.read command.template = .error error →
      Ends command files (.error (.invalidTemplate error))
  | notGathered {template : Template} {error : ExpandError} :
      Template.read command.template = .ok template → command.Gathers files (.error error) →
      Ends command files (.error error)
  | written {template : Template} {values : Variables} :
      Template.read command.template = .ok template → command.Gathers files (.ok values) →
      Ends command files (command.written template values)

theorem gather_of_gathers {result : Except ExpandError Variables}
    (gathers : command.Gathers files result) : command.gather files = result := by
  cases gathers with
  | cannotStart fails => exact gather_of_cannotStart fails
  | invalidAssignment starts listed split malformed =>
      rw [gather_of_startsFrom starts, listed]
      exact foldlM_assign_of_isMalformed split malformed _ _
  | extended starts split extended =>
      rw [gather_of_startsFrom starts, Variables.isExtended_iff.mp extended]
      exact foldlM_assign_of_areAssignments split _

theorem exists_gathers (command : ExpandCommand) (files : Files) :
    ∃ result, command.Gathers files result := by
  rcases startsFrom_or_cannotStart command files with ⟨start, starts⟩ | ⟨error, fails⟩
  · rcases exists_areAssignments_or_isMalformed command.assignments with
      ⟨pairs, split⟩ | ⟨before, pairs, text, after, listed, split, malformed⟩
    · exact ⟨_, .extended starts split (Variables.isExtended_iff.mpr rfl)⟩
    · exact ⟨_, .invalidAssignment starts listed split malformed⟩
  · exact ⟨_, .cannotStart fails⟩

theorem gather_eq_iff_gathers {result : Except ExpandError Variables} :
    command.gather files = result ↔ command.Gathers files result := by
  refine ⟨?_, gather_of_gathers⟩
  rintro rfl
  obtain ⟨result, gathers⟩ := exists_gathers command files
  rwa [gather_of_gathers gathers]

theorem output_of_ends {result : Except ExpandError String}
    (ends : command.Ends files result) : command.output files = result := by
  cases ends with
  | invalidTemplate notRead => exact output_of_error notRead
  | notGathered isRead gathers => exact output_of_gather_error isRead (gather_of_gathers gathers)
  | written isRead gathers => exact output_of_gather isRead (gather_of_gathers gathers)

theorem exists_ends (command : ExpandCommand) (files : Files) :
    ∃ result, command.Ends files result := by
  cases outcome : Template.read command.template with
  | error error => exact ⟨_, .invalidTemplate outcome⟩
  | ok template =>
      obtain ⟨result, gathers⟩ := exists_gathers command files
      cases result with
      | error error => exact ⟨_, .notGathered outcome gathers⟩
      | ok values => exact ⟨_, .written outcome gathers⟩

theorem output_eq_iff_ends {result : Except ExpandError String} :
    command.output files = result ↔ command.Ends files result := by
  refine ⟨?_, output_of_ends⟩
  rintro rfl
  obtain ⟨result, ends⟩ := exists_ends command files
  rwa [output_of_ends ends]

/-- Assignments that give every name the same texts make the same output. -/
theorem output_congr {assignments : List String} {pairs others : List (String × String)}
    (split : AreAssignments command.assignments pairs)
    (otherSplit : AreAssignments assignments others)
    (same : ∀ name, Variables.textsFor name pairs = Variables.textsFor name others) :
    { command with assignments }.output files = command.output files := by
  have sameFold : assignments.foldlM assign = command.assignments.foldlM assign := by
    funext start
    rw [foldlM_assign_of_areAssignments split, foldlM_assign_of_areAssignments otherSplit,
      Variables.appendTexts_congr same]
  simp only [output, gather, sameFold]

/-- The command ends in the one way that is open to it, with the values assigned to a name
behind those of the file. None of them is lost, taken twice or moved, and assignments to
different names may change places. -/
theorem output_closed_form (command : ExpandCommand) (files : Files) :
    (∀ result, command.output files = result ↔ command.Ends files result) ∧
    (∀ result, command.gather files = result ↔ command.Gathers files result) ∧
    (∀ (start values : Variables) (pairs : List (String × String)),
      start.IsExtended pairs values → ∀ name,
        values.textsOf name = start.textsOf name ++ Variables.textsFor name pairs) ∧
    ∀ (assignments : List String) (pairs others : List (String × String)),
      AreAssignments command.assignments pairs → AreAssignments assignments others →
      (∀ name, Variables.textsFor name pairs = Variables.textsFor name others) →
      { command with assignments }.output files = command.output files := by
  refine ⟨fun _ => output_eq_iff_ends, fun _ => gather_eq_iff_gathers, ?_, ?_⟩
  · intro start values pairs extended name
    rw [Variables.isExtended_iff.mp extended]
    exact Variables.textsOf_appendTexts start pairs name
  · intro assignments pairs others split otherSplit same
    exact output_congr split otherSplit same

/-- A text, a list and pairs that get further texts, in two orders, and the first of two texts
that are no assignments. -/
theorem output_closed_form_reordered :
    (∀ assignments ∈ [["l=b", "t=1=2", "k=", "l=c"], ["t=1=2", "l=b", "k=", "l=c"]],
      ExpandCommand.output ⟨"\x7b?t*,l*,k*\x7d", assignments, some "v.json", false⟩
          (fun _ => .ok "\x7b\"t\":\"x\",\"l\":[\"a\"],\"k\":\x7b\"m\":\"n\"\x7d\x7d") =
        .ok "?t=x&t=1%3D2&l=a&l=b&l=c&k=") ∧
    (∀ start values : Variables, start.IsExtended [("l", "b"), ("l", "c")] values →
      values.textsOf "l" = start.textsOf "l" ++ ["b", "c"]) ∧
    ExpandCommand.output ⟨"\x7bx\x7d", ["x=", "=y", "z"], none, false⟩ (fun _ => .error "") =
      .error (.invalidAssignment "=y") := by
  refine ⟨?_, ?_, ?_⟩
  · have isRead : Template.read "\x7b?t*,l*,k*\x7d" = .ok ⟨[.expression ⟨.query,
        [⟨"t", .explode⟩, ⟨"l", .explode⟩, ⟨"k", .explode⟩], List.cons_ne_nil _ _⟩]⟩ := by
      decide +kernel
    have decoded : Json.decode (Variables.ofJson 0)
        "\x7b\"t\":\"x\",\"l\":[\"a\"],\"k\":\x7b\"m\":\"n\"\x7d\x7d" = .ok (.ofBindings
          [("t", .text "x"), ("l", .list ["a"]), ("k", .associative (.ofPairs [("m", "n")]))]) := by
      decide +kernel
    have b : IsAssignment "l=b" "l" "b" := ⟨by decide +kernel, by decide, by decide⟩
    have c : IsAssignment "l=c" "l" "c" := ⟨by decide +kernel, by decide, by decide⟩
    have t : IsAssignment "t=1=2" "t" "1=2" := ⟨by decide +kernel, by decide, by decide⟩
    have k : IsAssignment "k=" "k" "" := ⟨by decide +kernel, by decide, by decide⟩
    have split : AreAssignments ["l=b", "t=1=2", "k=", "l=c"]
        [("l", "b"), ("t", "1=2"), ("k", ""), ("l", "c")] :=
      .cons b (.cons t (.cons k (.cons c .nil)))
    have swapped : AreAssignments ["t=1=2", "l=b", "k=", "l=c"]
        [("t", "1=2"), ("l", "b"), ("k", ""), ("l", "c")] :=
      .cons t (.cons b (.cons k (.cons c .nil)))
    obtain ⟨ends, -, -, reordered⟩ := output_closed_form
      ⟨"\x7b?t*,l*,k*\x7d", ["l=b", "t=1=2", "k=", "l=c"], some "v.json", false⟩
      (fun _ => .ok "\x7b\"t\":\"x\",\"l\":[\"a\"],\"k\":\x7b\"m\":\"n\"\x7d\x7d")
    have written := (ends _).mpr
      (.written isRead (.extended (.file rfl rfl decoded) split
        (Variables.isExtended_iff.mpr rfl)))
    have expanded : ExpandCommand.written
        ⟨"\x7b?t*,l*,k*\x7d", ["l=b", "t=1=2", "k=", "l=c"], some "v.json", false⟩
        ⟨[.expression ⟨.query, [⟨"t", .explode⟩, ⟨"l", .explode⟩, ⟨"k", .explode⟩],
          List.cons_ne_nil _ _⟩]⟩
        (Variables.appendTexts (.ofBindings [("t", .text "x"), ("l", .list ["a"]),
          ("k", .associative (.ofPairs [("m", "n")]))])
          [("l", "b"), ("t", "1=2"), ("k", ""), ("l", "c")]) =
        .ok "?t=x&t=1%3D2&l=a&l=b&l=c&k=" := by
      decide +kernel
    rw [expanded] at written
    have same := reordered _ _ _ split swapped
      (Variables.textsFor_swap (by decide) [("k", ""), ("l", "c")])
    simp only [List.forall_mem_cons, List.not_mem_nil, false_implies, implies_true, and_true]
    exact ⟨written, same.trans written⟩
  · intro start values extended
    exact (output_closed_form ⟨"", [], none, false⟩ fun _ => .error "").2.2.1 _ _ _ extended "l"
  · have isRead : Template.read "\x7bx\x7d" =
        .ok ⟨[.expression ⟨.simple, [⟨"x", .plain⟩], List.cons_ne_nil _ _⟩]⟩ := by
      decide +kernel
    have x : IsAssignment "x=" "x" "" := ⟨by decide +kernel, by decide, by decide⟩
    have split : AreAssignments ["x="] [("x", "")] := .cons x .nil
    have malformed : IsMalformed "=y" := .inr (by decide +kernel)
    exact ((output_closed_form _ _).1 _).mpr (.notGathered isRead
      (.invalidAssignment (.nothing rfl) rfl split malformed))

end CommandLine.ExpandCommand

end UriExpansion
