import UriExpansion.Proofs.Template.Canonical
import UriExpansion.Proofs.Template.Datum

/-!
Expressions that are put together by calls instead of being read. Of the calls on a
variable the last accepted one decides, so no sequence of calls leaves a variable that is
both exploded and cut to a prefix. Whatever the calls were, the text of the expression is
read as the expression.
-/

namespace UriExpansion

/-- A call on a variable that is being built. -/
inductive BuilderCall where
  | explode
  | limit (length : Nat)
  deriving DecidableEq, Repr

namespace BuilderCall

def IsAccepted : BuilderCall → Prop
  | explode => True
  | limit length => 1 ≤ length ∧ length ≤ 9999

instance : DecidablePred IsAccepted
  | explode => inferInstanceAs (Decidable True)
  | limit length => inferInstanceAs (Decidable (1 ≤ length ∧ length ≤ 9999))

/-- What becomes of a variable; nothing if the call is refused. -/
def result? (spec : VarSpec) : BuilderCall → Option VarSpec
  | explode => some spec.exploded
  | limit length => spec.withMaxLength? length

end BuilderCall

namespace VarSpec

/-- The variable that calls build, all of which have to be accepted. -/
def build? (name : String) (calls : List BuilderCall) : Option VarSpec :=
  calls.foldlM BuilderCall.result? (ofName name)

/-- The variable that is left when calls have been tried on copies of it, so that one that
is refused changes nothing. -/
def build (name : String) (calls : List BuilderCall) : VarSpec :=
  calls.foldl (fun spec call => (call.result? spec).getD spec) (ofName name)

/-- A variable whose modifier is that of the last accepted call. -/
structure Shows (spec : VarSpec) (name : String) (last? : Option BuilderCall) : Prop where
  name : spec.name = name
  exploded : spec.isExploded = true ↔ last? = some .explode
  limited : ∀ length, spec.maxLength? = some length ↔ last? = some (.limit length)

theorem shows_ofName (name : String) : (ofName name).Shows name none := by
  constructor <;> simp [ofName, isExploded, maxLength?]

theorem Shows.exploded_call {spec : VarSpec} {name : String} {last? : Option BuilderCall}
    (before : spec.Shows name last?) : spec.exploded.Shows name (some .explode) := by
  refine ⟨before.name, ?_, ?_⟩
  · simp [VarSpec.exploded, isExploded]
  · simp [VarSpec.exploded, maxLength?]

theorem withMaxLength?_of_accepted (spec : VarSpec) {length : Nat} (least : 1 ≤ length)
    (greatest : length ≤ 9999) :
    spec.withMaxLength? length = some { spec with modifier := .upTo length least greatest } := by
  simp [withMaxLength?, Modifier.upTo?, least, greatest]

theorem withMaxLength?_of_refused (spec : VarSpec) {length : Nat}
    (refused : ¬ (1 ≤ length ∧ length ≤ 9999)) : spec.withMaxLength? length = none := by
  rw [withMaxLength?, Modifier.upTo?, dif_neg refused]
  rfl

/-- An accepted call leaves nothing of the modifier before it. -/
theorem Shows.result?_of_accepted {spec : VarSpec} {name : String} {last? : Option BuilderCall}
    (before : spec.Shows name last?) {call : BuilderCall} (accepted : call.IsAccepted) :
    ∃ next, call.result? spec = some next ∧ next.Shows name (some call) := by
  cases call with
  | explode => exact ⟨_, rfl, before.exploded_call⟩
  | limit length =>
      refine ⟨_, spec.withMaxLength?_of_accepted accepted.1 accepted.2, before.name, ?_, ?_⟩
      · simp [isExploded]
      · simp [maxLength?]

theorem result?_of_refused (spec : VarSpec) {call : BuilderCall} (refused : ¬ call.IsAccepted) :
    call.result? spec = none := by
  cases call with
  | explode => exact absurd trivial refused
  | limit length => exact spec.withMaxLength?_of_refused refused

theorem build_concat (name : String) (calls : List BuilderCall) (call : BuilderCall) :
    build name (calls ++ [call]) = (call.result? (build name calls)).getD (build name calls) := by
  rw [build, List.foldl_append]
  rfl

/-- Of all calls that have been tried, the last accepted one decides. -/
theorem shows_build (name : String) (calls : List BuilderCall) :
    (build name calls).Shows name (calls.filter (·.IsAccepted)).getLast? := by
  induction calls using List.reverseRecOn with
  | nil => exact shows_ofName name
  | append_singleton earlier call inductionHypothesis =>
      rw [build_concat, List.filter_append]
      by_cases accepted : call.IsAccepted
      · obtain ⟨next, applied, showsNext⟩ := inductionHypothesis.result?_of_accepted accepted
        rw [applied, List.filter_cons_of_pos (by simpa using accepted), List.filter_nil,
          List.getLast?_concat]
        exact showsNext
      · rw [result?_of_refused _ accepted, List.filter_cons_of_neg (by simpa using accepted),
          List.filter_nil, List.append_nil]
        exact inductionHypothesis

theorem Shows.exclusive {spec : VarSpec} {name : String} {last? : Option BuilderCall}
    (shows : spec.Shows name last?) (exploded : spec.isExploded = true) :
    spec.maxLength? = none := by
  apply Option.eq_none_iff_forall_ne_some.mpr
  intro length limited
  rw [shows.limited, shows.exploded.mp exploded] at limited
  cases limited

theorem bounded_build {name : String} {calls : List BuilderCall} {length : Nat}
    (limited : (build name calls).maxLength? = some length) : 1 ≤ length ∧ length ≤ 9999 := by
  have decided := ((shows_build name calls).limited length).mp limited
  have membership := List.mem_of_getLast? decided
  exact of_decide_eq_true (List.mem_filter.mp membership).2

theorem build?_concat (name : String) (calls : List BuilderCall) (call : BuilderCall) :
    build? name (calls ++ [call]) = (build? name calls).bind call.result? := by
  rw [build?, List.foldlM_append]
  simp [build?]

/-- As long as no call is refused it does not matter what a refusal leaves. -/
theorem build?_eq_some_iff {name : String} {calls : List BuilderCall} {spec : VarSpec} :
    build? name calls = some spec ↔
      (∀ call ∈ calls, call.IsAccepted) ∧ build name calls = spec := by
  induction calls using List.reverseRecOn generalizing spec with
  | nil => simp [build?, build]
  | append_singleton earlier call inductionHypothesis =>
      rw [build?_concat, build_concat, List.forall_mem_append, List.forall_mem_singleton,
        Option.bind_eq_some_iff]
      constructor
      · rintro ⟨middle, earlierBuilds, applied⟩
        obtain ⟨accepted, rfl⟩ := inductionHypothesis.mp earlierBuilds
        refine ⟨⟨accepted, ?_⟩, by rw [applied, Option.getD_some]⟩
        by_contra refused
        rw [result?_of_refused _ refused] at applied
        cases applied
      · rintro ⟨⟨accepted, lastAccepted⟩, rfl⟩
        obtain ⟨next, applied, -⟩ := (shows_build name earlier).result?_of_accepted lastAccepted
        exact ⟨_, inductionHypothesis.mpr ⟨accepted, rfl⟩, by rw [applied, Option.getD_some]⟩

/-- A variable that accepted calls build on a name of the grammar. -/
def IsBuilt (spec : VarSpec) : Prop :=
  ∃ (name : String) (calls : List BuilderCall), VariableName.IsName name.toList ∧
    build? name calls = some spec

theorem IsBuilt.isNamed {spec : VarSpec} (built : spec.IsBuilt) : spec.IsNamed := by
  obtain ⟨name, calls, isName, builds⟩ := built
  obtain ⟨-, rfl⟩ := build?_eq_some_iff.mp builds
  rw [IsNamed, (shows_build name calls).name]
  exact isName

end VarSpec

/-- The spelling of a length without leading zeros. -/
def LengthSpelling.ofNumber (number : Nat) (positive : 1 ≤ number) (bounded : number ≤ 9999) :
    LengthSpelling where
  digits := Nat.toDigits 10 number
  allDigits := fun _ membership =>
    Nat.isDigit_of_mem_toDigits (by decide) (by decide) membership
  nonempty := Nat.length_toDigits_pos
  atMostFour := (Nat.length_toDigits_le_iff (by decide) (by decide)).mpr
    (Nat.lt_succ_of_le bounded)
  positive := by
    rw [decimalNumber_toDigits]
    exact positive

theorem ModifierSpelling.exists_meaning (modifier : Modifier) :
    ∃ spelling : ModifierSpelling, spelling.meaning = modifier := by
  cases modifier with
  | plain => exact ⟨.plain, rfl⟩
  | explode => exact ⟨.explode, rfl⟩
  | upTo length positive bounded =>
      exact ⟨.upTo (.ofNumber length positive bounded), by simp [meaning, LengthSpelling.ofNumber]⟩

theorem VarSpelling.exists_meaning {spec : VarSpec} (named : spec.IsNamed) :
    ∃ spelling : VarSpelling, spelling.meaning = spec := by
  obtain ⟨modifier, meant⟩ := ModifierSpelling.exists_meaning spec.modifier
  refine ⟨⟨spec.name.toList, named, modifier⟩, ?_⟩
  rw [meaning, meant, String.ofList_toList]

theorem VarSpelling.exists_map_meaning {specs : List VarSpec}
    (named : ∀ spec ∈ specs, spec.IsNamed) :
    ∃ vars : List VarSpelling, vars.map meaning = specs := by
  induction specs with
  | nil => exact ⟨[], rfl⟩
  | cons first rest inductionHypothesis =>
      obtain ⟨firstNamed, restNamed⟩ := List.forall_mem_cons.mp named
      obtain ⟨var, rfl⟩ := exists_meaning firstNamed
      obtain ⟨vars, rfl⟩ := inductionHypothesis restNamed
      exact ⟨var :: vars, rfl⟩

namespace Expression

/-- The text of an expression, put into braces, is read as the expression alone. -/
theorem read_text_of_isNamed {expression : Expression}
    (named : ∀ spec ∈ expression.specs, spec.IsNamed) :
    Template.read ("\x7b" ++ expression.text ++ "\x7d") = .ok ⟨[.expression expression]⟩ := by
  obtain ⟨operator, specs, nonempty⟩ := expression
  obtain ⟨vars, rfl⟩ := VarSpelling.exists_map_meaning named
  have vars_ne_nil : vars ≠ [] := by
    rintro rfl
    exact nonempty rfl
  let nothing : LiteralRun := ⟨[], List.not_mem_nil⟩
  let spelling : TemplateSpelling := .braced nothing ⟨operator, vars, vars_ne_nil⟩ (.last nothing)
  have readAgain := spelling.read_text_meaning
  have meant : spelling.meaning =
      ⟨[.expression ⟨operator, vars.map VarSpelling.meaning, nonempty⟩]⟩ := rfl
  rw [meant] at readAgain
  rw [← readAgain]
  simp [Template.text, Element.text]

/-- Expressions of variables that calls have built are read back from their text. Whatever
calls have been tried, the last accepted one decides, and no variable is left with both
modifiers or with a length out of range. -/
theorem read_text_of_isBuilt (operator : Operator) {specs : List VarSpec}
    (nonempty : specs ≠ []) (built : ∀ spec ∈ specs, spec.IsBuilt) :
    (∃ expression : Expression, ofSpecs? operator specs = some expression ∧
      Template.read ("\x7b" ++ expression.text ++ "\x7d") = .ok ⟨[.expression expression]⟩) ∧
      ∀ (name : String) (calls : List BuilderCall),
        (VarSpec.build name calls).Shows name (calls.filter (·.IsAccepted)).getLast? ∧
        ((VarSpec.build name calls).isExploded = true →
          (VarSpec.build name calls).maxLength? = none) ∧
        (∀ length, (VarSpec.build name calls).maxLength? = some length →
          1 ≤ length ∧ length ≤ 9999) ∧
        ∀ spec, VarSpec.build? name calls = some spec ↔
          (∀ call ∈ calls, call.IsAccepted) ∧ VarSpec.build name calls = spec := by
  constructor
  · refine ⟨⟨operator, specs, nonempty⟩, ofSpecs?_eq_some_iff.mpr ⟨rfl, rfl⟩, ?_⟩
    apply read_text_of_isNamed
    intro spec membership
    exact (built spec membership).isNamed
  · intro name calls
    have shows := VarSpec.shows_build name calls
    exact ⟨shows, shows.exclusive, fun length => VarSpec.bounded_build,
      fun spec => VarSpec.build?_eq_some_iff⟩

/-- Two variables that had the other modifier first. -/
theorem read_text_of_isBuilt_exclusive :
    ∃ first second : VarSpec,
      VarSpec.build? "list" [.limit 3, .explode] = some first ∧
      VarSpec.build? "a.%20" [.explode, .limit 9999] = some second ∧
      ∃ expression : Expression, ofSpecs? .pathSegment [first, second] = some expression ∧
        expression.text = "/list*,a.%20:9999" ∧
        Template.read "\x7b/list*,a.%20:9999\x7d" = .ok ⟨[.expression expression]⟩ := by
  refine ⟨⟨"list", .explode⟩, ⟨"a.%20", .upTo 9999 (by decide) (by decide)⟩, by decide,
    by decide, ?_⟩
  have built : ∀ spec ∈ [(⟨"list", .explode⟩ : VarSpec),
      ⟨"a.%20", .upTo 9999 (by decide) (by decide)⟩], spec.IsBuilt := by
    rw [List.forall_mem_cons, List.forall_mem_singleton]
    exact ⟨⟨"list", [.limit 3, .explode],
        VariableName.isValid_iff_isName.mp (by decide), by decide⟩,
      ⟨"a.%20", [.explode, .limit 9999],
        VariableName.isValid_iff_isName.mp (by decide), by decide⟩⟩
  obtain ⟨⟨expression, made, readBack⟩, -⟩ :=
    read_text_of_isBuilt .pathSegment (List.cons_ne_nil _ _) built
  obtain ⟨operator, specs⟩ := ofSpecs?_eq_some_iff.mp made
  have written : expression.text = "/list*,a.%20:9999" := by
    rw [text, ← operator, ← specs]
    decide
  rw [written] at readBack
  exact ⟨expression, made, written, readBack⟩

end Expression

end UriExpansion
