import UriExpansion.Proofs.Binding.AssociativeList
import UriExpansion.Proofs.Binding.Query
import UriExpansion.Proofs.Text.Delimiter
import Mathlib.Data.List.DropRight

/-!
What query parameters bind, in closed form. A parameter is an event for one name: a further
text or a further member. Each event changes the value of its name only, and of the events
for a name only those count that make up the last run of one kind.
-/

namespace UriExpansion

/-- A parameter that is written `name[key]`. -/
structure IsMemberParameter (parameter name key : String) : Prop where
  written : parameter = name ++ "[" ++ key ++ "]"
  noOpening : '[' ∉ name.toList
  name_ne_empty : name ≠ ""
  key_ne_empty : key ≠ ""

namespace Variables

/-- A parameter with an opening bracket is cut at the first one. -/
theorem memberOf?_append_cons {name : List Char} (absent : '[' ∉ name) (rest : List Char) :
    memberOf? (String.ofList (name ++ '[' :: rest)) =
      if rest.getLast? = some ']' ∧ name ≠ [] ∧ rest.dropLast ≠ [] then
        some (String.ofList name, String.ofList rest.dropLast)
      else none := by
  obtain ⟨before, after⟩ := Text.span_append_cons absent rest
  have sameLast : (name ++ '[' :: rest).getLast? = some ']' ↔ rest.getLast? = some ']' := by
    rw [List.getLast?_append_cons, List.getLast?_cons]
    cases rest.getLast? <;> simp
  simp only [memberOf?, String.toList_ofList, before, after, List.drop_succ_cons, List.drop_zero,
    sameLast, Bool.or_eq_true, List.isEmpty_iff]
  by_cases closed : rest.getLast? = some ']'
  · by_cases someEmpty : name = [] ∨ rest.dropLast = []
    · rw [if_pos closed, if_pos someEmpty, if_neg]
      tauto
    · rw [if_pos closed, if_neg someEmpty, if_pos]
      tauto
  · rw [if_neg closed, if_neg fun conditions => closed conditions.1]

theorem memberOf?_eq_none_of_noOpening {parameter : String}
    (noOpening : '[' ∉ parameter.toList) : memberOf? parameter = none := by
  have noRest := (Text.span_append noOpening []).2
  rw [List.append_nil] at noRest
  simp only [memberOf?, noRest]
  simp

theorem memberOf?_eq_some_iff {parameter name key : String} :
    memberOf? parameter = some (name, key) ↔ IsMemberParameter parameter name key := by
  constructor
  · intro found
    by_cases opening : '[' ∈ parameter.toList
    · obtain ⟨before, rest, split, absent⟩ := List.eq_append_cons_of_mem opening
      have written : parameter = String.ofList (before ++ '[' :: rest) := by
        rw [← split, String.ofList_toList]
      rw [written, memberOf?_append_cons absent] at found
      split at found
      next conditions =>
        obtain ⟨closed, named, keyed⟩ := conditions
        obtain ⟨rfl, rfl⟩ := Prod.mk.inj (Option.some.inj found)
        have closing : rest = rest.dropLast ++ [']'] :=
          (List.dropLast_append_getLast? _ closed).symm
        refine ⟨?_, by simpa using absent, ?_, ?_⟩
        · rw [written, closing]
          simp [String.ext_iff]
        · simpa [String.ext_iff] using named
        · simpa [String.ext_iff] using keyed
      next => cases found
    · rw [memberOf?_eq_none_of_noOpening opening] at found
      cases found
  · rintro ⟨rfl, noOpening, named, keyed⟩
    have written : name ++ "[" ++ key ++ "]" =
        String.ofList (name.toList ++ '[' :: (key.toList ++ [']'])) := by
      rw [String.ext_iff]
      simp
    rw [written, memberOf?_append_cons noOpening, if_pos]
    · simp
    · simpa using And.intro named keyed

end Variables

/-- What a parameter gives to the name that it is about. -/
inductive QueryEvent where
  | text (content : String)
  | member (key value : String)
  deriving DecidableEq, Repr

namespace QueryEvent

def isMember : QueryEvent → Bool
  | text _ => false
  | member _ _ => true

/-- The name that a parameter is about, and the event that it is for this name. -/
def ofParameter (parameter : String × String) : String × QueryEvent :=
  match Variables.memberOf? parameter.1 with
  | some (name, key) => (name, member key parameter.2)
  | none => (parameter.1, text parameter.2)

theorem ofParameter_member_iff {parameter value name key : String} :
    ofParameter (parameter, value) = (name, member key value) ↔
      IsMemberParameter parameter name key := by
  rw [← Variables.memberOf?_eq_some_iff, ofParameter]
  split
  next found => simp [found]
  next found => simp [found]

theorem ofParameter_text {parameter : String}
    (noMember : ∀ name key, ¬ IsMemberParameter parameter name key) (value : String) :
    ofParameter (parameter, value) = (parameter, text value) := by
  have notFound : Variables.memberOf? parameter = none := by
    rw [Option.eq_none_iff_forall_ne_some]
    exact fun member found => noMember _ _ (Variables.memberOf?_eq_some_iff.mp found)
  rw [ofParameter, notFound]

/-- The events for a name, in the order of their parameters. -/
def eventsFor (name : String) (parameters : List (String × String)) : List QueryEvent :=
  ((parameters.map ofParameter).filter (·.1 = name)).map Prod.snd

/-- Whether some parameter is about a name. -/
def IsTarget (name : String) (parameters : List (String × String)) : Prop :=
  ∃ parameter ∈ parameters, (ofParameter parameter).1 = name

theorem eventsFor_eq_nil_iff {name : String} {parameters : List (String × String)} :
    eventsFor name parameters = [] ↔ ¬ IsTarget name parameters := by
  rw [eventsFor, List.map_eq_nil_iff, List.filter_eq_nil_iff, List.forall_mem_map, IsTarget]
  simp only [decide_eq_true_eq, not_exists, not_and]

/-- The events at the end that are of the kind of the last one. -/
def lastRun (events : List QueryEvent) : List QueryEvent :=
  match events.getLast? with
  | none => []
  | some last => events.rtakeWhile fun event => event.isMember = last.isMember

theorem lastRun_concat (events : List QueryEvent) (event : QueryEvent) :
    lastRun (events ++ [event]) =
      (events.rtakeWhile fun earlier => earlier.isMember = event.isMember) ++ [event] := by
  rw [lastRun, List.getLast?_concat]
  exact List.rtakeWhile_concat_pos _ _ _ (decide_eq_true rfl)

/-- Events of one kind make up one run. -/
theorem lastRun_of_forall {events : List QueryEvent} {kind : Bool}
    (alike : ∀ event ∈ events, event.isMember = kind) : lastRun events = events := by
  rw [lastRun]
  cases last : events.getLast? with
  | none => exact (List.getLast?_eq_none_iff.mp last).symm
  | some event =>
      have ofKind := alike event (List.mem_of_getLast? last)
      exact List.rtakeWhile_eq_self_iff.mpr fun earlier membership =>
        decide_eq_true ((alike earlier membership).trans ofKind.symm)

/-- An event of the kind of the last run goes on with it, any other event starts a new one. -/
theorem lastRun_concat_eq_ite (events : List QueryEvent) (event : QueryEvent) :
    lastRun (events ++ [event]) =
      (if ∀ earlier ∈ lastRun events, earlier.isMember = event.isMember then lastRun events
        else []) ++ [event] := by
  rw [lastRun_concat]
  congr 1
  rcases List.eq_nil_or_concat' events with rfl | ⟨start, last, rfl⟩
  · simp [lastRun]
  · have inRun : last ∈ lastRun (start ++ [last]) := by simp [lastRun_concat]
    by_cases same : last.isMember = event.isMember
    · have allSame : ∀ earlier ∈ lastRun (start ++ [last]),
          earlier.isMember = event.isMember := by
        intro earlier membership
        rw [lastRun_concat, List.mem_append, List.mem_singleton] at membership
        rcases membership with inStart | rfl
        · have kind : earlier.isMember = last.isMember := by
            simpa using List.mem_rtakeWhile_imp inStart
          exact kind.trans same
        · exact same
      rw [if_pos allSame, lastRun_concat, same, List.rtakeWhile_concat,
        if_pos (decide_eq_true same)]
    · rw [if_neg fun all => same (all last inRun), List.rtakeWhile_concat,
        if_neg (by simpa using same)]

end QueryEvent

namespace Value

open QueryEvent (eventsFor lastRun ofParameter)

/-- The value of a name after a further event for it. -/
def afterEvent (value? : Option Value) : QueryEvent → Value
  | .text content => appendText value? content
  | .member key value => insertMember value? key value

theorem afterParameter_eq_ite (name : String) (value? : Option Value)
    (parameter : String × String) :
    afterParameter name value? parameter =
      if (ofParameter parameter).1 = name then
        some (afterEvent value? (ofParameter parameter).2)
      else value? := by
  unfold afterParameter ofParameter
  cases Variables.memberOf? parameter.1 with
  | none => simp [afterEvent, eq_comm]
  | some member => simp [afterEvent, eq_comm]

theorem foldl_afterParameter (name : String) (parameters : List (String × String))
    (value? : Option Value) :
    parameters.foldl (afterParameter name) value? =
      (eventsFor name parameters).foldl (fun value? event => some (afterEvent value? event))
        value? := by
  rw [eventsFor, List.foldl_map, List.foldl_filter, List.foldl_map]
  simp only [decide_eq_true_eq, ← afterParameter_eq_ite]

theorem foldl_insertMember (pairs : AssociativeList) (members : List (String × String)) :
    members.foldl (fun value? member => some (insertMember value? member.1 member.2))
      (some (.associative pairs)) = some (.associative (pairs.insertMany members)) := by
  induction members generalizing pairs with
  | nil => rfl
  | cons member rest inductionHypothesis =>
      rw [List.foldl_cons]
      exact inductionHypothesis (pairs.insert member.1 member.2)

/-- The value that a run of events of one kind tells. -/
inductive OfRun : List QueryEvent → Option Value → Prop where
  | nothing : OfRun [] none
  | text (content : String) : OfRun [.text content] (some (.text content))
  | list {items : List String} (several : 2 ≤ items.length) :
      OfRun (items.map .text) (some (.list items))
  | associative {members : List (String × String)} {pairs : AssociativeList}
      (notEmpty : members ≠ []) (built : pairs.IsBuiltFrom members) :
      OfRun (members.map fun (key, value) => .member key value) (some (.associative pairs))

namespace OfRun

theorem afterText {run : List QueryEvent} {value? : Option Value} (told : OfRun run value?)
    (content : String) :
    OfRun ((if ∀ earlier ∈ run, earlier.isMember = false then run else []) ++ [.text content])
      (some (appendText value? content)) := by
  cases told with
  | nothing => exact text content
  | text first =>
      rw [if_pos (by simp [QueryEvent.isMember])]
      have pair : 2 ≤ [first, content].length := Nat.le_refl 2
      exact list pair
  | @list items several =>
      rw [if_pos (by simp [QueryEvent.isMember])]
      have longer : 2 ≤ (items ++ [content]).length := by
        rw [List.length_append]
        omega
      simpa [appendText] using list longer
  | @associative members pairs notEmpty built =>
      -- Any member of the earlier run shows that it is of the other kind.
      obtain ⟨member, inMembers⟩ := List.exists_mem_of_ne_nil members notEmpty
      rw [if_neg fun all => Bool.noConfusion (all _ (List.mem_map_of_mem inMembers))]
      exact text content

theorem afterMember {run : List QueryEvent} {value? : Option Value} (told : OfRun run value?)
    (key value : String) :
    OfRun ((if ∀ earlier ∈ run, earlier.isMember = true then run else []) ++ [.member key value])
      (some (insertMember value? key value)) := by
  have startsAnew := associative (List.cons_ne_nil (key, value) [])
    (AssociativeList.IsBuiltFrom.nil.insert key value)
  cases told with
  | nothing => exact startsAnew
  | text first =>
      rw [if_neg (by simp [QueryEvent.isMember])]
      exact startsAnew
  | @list items several =>
      obtain ⟨item, inItems⟩ := List.exists_mem_of_length_pos (Nat.zero_lt_of_lt several)
      rw [if_neg fun all => Bool.noConfusion (all _ (List.mem_map_of_mem inItems))]
      exact startsAnew
  | @associative members pairs notEmpty built =>
      have allMembers : ∀ earlier ∈ members.map fun (key, value) => QueryEvent.member key value,
          earlier.isMember = true := by
        rw [List.forall_mem_map]
        exact fun _ _ => rfl
      rw [if_pos allMembers]
      simpa [insertMember] using associative (by simp) (built.insert key value)

/-- What the last run tells is kept true by each event. -/
theorem step {events : List QueryEvent} {value? : Option Value}
    (told : OfRun (lastRun events) value?) (event : QueryEvent) :
    OfRun (lastRun (events ++ [event])) (some (afterEvent value? event)) := by
  rw [QueryEvent.lastRun_concat_eq_ite]
  cases event with
  | text content => exact told.afterText content
  | member key value => exact told.afterMember key value

theorem foldl_afterEvent (events : List QueryEvent) :
    OfRun (lastRun events)
      (events.foldl (fun value? event => some (afterEvent value? event)) none) := by
  induction events using List.reverseRecOn with
  | nil => exact nothing
  | append_singleton earlier event inductionHypothesis =>
      rw [List.foldl_concat]
      exact inductionHypothesis.step event

/-- A run tells one value: that of taking its events one after the other. -/
theorem eq_foldl {run : List QueryEvent} {value? : Option Value} (told : OfRun run value?) :
    value? = run.foldl (fun value? event => some (afterEvent value? event)) none := by
  cases told with
  | nothing => rfl
  | text content => rfl
  | list several =>
      rw [List.foldl_map]
      exact (foldl_appendText several).symm
  | @associative members pairs notEmpty built =>
      obtain ⟨first, rest, rfl⟩ := List.exists_cons_of_ne_nil notEmpty
      rw [List.foldl_map, List.foldl_cons, built.unique (.ofPairs _)]
      exact (foldl_insertMember (.insert .empty first.1 first.2) rest).symm

theorem unique {run : List QueryEvent} {value? value?' : Option Value}
    (told : OfRun run value?) (told' : OfRun run value?') : value? = value?' :=
  told.eq_foldl.trans told'.eq_foldl.symm

end OfRun

end Value

namespace Variables

open QueryEvent (eventsFor lastRun ofParameter)

theorem ofQuery_congr {parameters parameters' : List (String × String)}
    (sameEvents : ∀ name, eventsFor name parameters = eventsFor name parameters') :
    ofQuery parameters = ofQuery parameters' := by
  refine ext_get? fun name => ?_
  rw [get?_ofQuery, get?_ofQuery, Value.foldl_afterParameter, Value.foldl_afterParameter,
    sameEvents]

theorem get?_ofQuery_eq_iff {parameters : List (String × String)} {name : String}
    {value? : Option Value} :
    (ofQuery parameters).get? name = value? ↔
      Value.OfRun (lastRun (eventsFor name parameters)) value? := by
  have told := Value.OfRun.foldl_afterEvent (eventsFor name parameters)
  rw [get?_ofQuery, Value.foldl_afterParameter]
  constructor
  · rintro rfl
    exact told
  · exact told.unique

/-- A name is bound to what the last run of its events tells, wherever these events stand
between those for other names. -/
theorem ofQuery_closed_form :
    (∀ parameter value name key, ofParameter (parameter, value) = (name, .member key value) ↔
      IsMemberParameter parameter name key) ∧
    (∀ parameter value, (∀ name key, ¬ IsMemberParameter parameter name key) →
      ofParameter (parameter, value) = (parameter, .text value)) ∧
    (∀ parameters name value?, (ofQuery parameters).get? name = value? ↔
      Value.OfRun (lastRun (eventsFor name parameters)) value?) ∧
    ∀ parameters parameters',
      (∀ name, eventsFor name parameters = eventsFor name parameters') →
        ofQuery parameters = ofQuery parameters' :=
  ⟨fun _ _ _ _ => QueryEvent.ofParameter_member_iff,
    fun _ value noMember => QueryEvent.ofParameter_text noMember value,
    fun _ _ _ => get?_ofQuery_eq_iff, fun _ _ => ofQuery_congr⟩

/-- Members and texts of two names in two orders, and a key that is itself in brackets. -/
theorem ofQuery_closed_form_interleaved :
    ofQuery [("a", "0"), ("a[k]", "1"), ("b", "x"), ("a[[l]]", "2"), ("b", "y"), ("a[k]", "3")] =
      ofQuery [("b", "x"), ("b", "y"), ("a", "0"), ("a[k]", "1"), ("a[[l]]", "2"),
        ("a[k]", "3")] ∧
    QueryEvent.ofParameter ("a[k", "4") = ("a[k", .text "4") := by
  obtain ⟨-, isText, -, sameBindings⟩ := ofQuery_closed_form
  constructor
  · refine sameBindings _ _ fun name => ?_
    by_cases named : name ∈ ["a", "b"]
    · rw [List.mem_pair] at named
      rcases named with rfl | rfl
      · decide
      · decide
    · have noEvents : ∀ parameters : List (String × String),
          (∀ parameter ∈ parameters, (ofParameter parameter).1 ∈ ["a", "b"]) →
            eventsFor name parameters = [] := by
        intro parameters others
        rw [QueryEvent.eventsFor_eq_nil_iff]
        rintro ⟨parameter, membership, rfl⟩
        exact named (others parameter membership)
      rw [noEvents _ (by decide), noEvents _ (by decide)]
  · refine isText _ _ fun name key isMember => ?_
    have closed : "a[k".toList.getLast? = some ']' := by
      rw [isMember.written, String.toList_append]
      exact List.getLast?_concat
    exact absurd closed (by decide)

end Variables

end UriExpansion
