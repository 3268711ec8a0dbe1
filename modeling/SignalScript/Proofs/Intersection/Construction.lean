import SignalScript.Intersection.Basic
import SignalScript.Proofs.Intersection.Entry

/-!
# Building an intersection

An intersection is built from any node. Every entry of its state list becomes a state, or repeats
one and is warned about, or is refused with an error; nothing is dropped and nothing counts twice.

* `Node.Lights`, `Node.States`   what the two keys of a block say, and what is wrong with them;
* `Intersection.StateList.Accounts`  what is known of the entries that were read;
* `Intersection.accounts_readStates` this holds of every list of entries;
* `Intersection.ofNode_loses_nothing`  errors, states and log of an intersection that was built.
-/

namespace SignalScript

/-! ## the keys of a block -/

namespace Node

/-- the lights of a block, and what is wrong with them -/
inductive Lights (block : Node) : List Nat → Option ConfigurationError → Prop
  | missing (h : block.get? "TrafficLightId" = none) :
      Lights block [] (some (.missingKey "TrafficLightId" "Intersection" block))
  | mistyped {value : Node} {reason : Mismatch} (h : block.get? "TrafficLightId" = some value)
      (hvalue : value.asNaturals = .error reason) :
      Lights block [] (some (.invalidValue "TrafficLightId" reason))
  | empty {value : Node} (h : block.get? "TrafficLightId" = some value)
      (hvalue : value.asNaturals = .ok []) :
      Lights block [] (some (.invalidValue "TrafficLightId" .noLights))
  | listed {value : Node} {id : Nat} {ids : List Nat}
      (h : block.get? "TrafficLightId" = some value) (hvalue : value.asNaturals = .ok (id :: ids)) :
      Lights block (id :: ids) none

/-- the entries of the state list of a block, and what is wrong if there is no such list -/
inductive States (block : Node) : List Node → Option ConfigurationError → Prop
  | missing (h : block.get? "Control" = none) :
      States block [] (some (.missingKey "Control" "Intersection" block))
  | noList {value : Node} (h : block.get? "Control" = some value)
      (hother : ∀ entries, value ≠ .sequence entries) :
      States block [] (some (.invalidValue "Control" .noStateList))
  | listed {entries : List Node} (h : block.get? "Control" = some (.sequence entries)) :
      States block entries none

end Node

namespace Payload

/-- why an entry is refused, if it is -/
def refusal? (entry : Node) : Option ConfigurationError :=
  match ofNode? entry with
  | .ok _ => none
  | .error error => some error

/-- the payloads of the entries that are accepted, in order -/
def accepted (entries : List Node) : List Payload :=
  entries.filterMap fun entry => (ofNode? entry).toOption

/-- some entry stands for a state of the name -/
def Defines (entries : List Node) (name : String) : Prop :=
  ∃ entry ∈ entries, ∃ payload, entry.Specifies payload ∧ payload.name = name

/-- the first entry that stands for a state of the name, with the payload that it stands for -/
def First (entries : List Node) (name : String) (payload : Payload) : Prop :=
  ∃ before entry behind, entries = before ++ entry :: behind ∧
    entry.Specifies payload ∧ payload.name = name ∧
    ∀ earlier ∈ before, ∀ other, earlier.Specifies other → other.name ≠ name

section
variable {entry : Node} {rest : List Node}

theorem accepted_cons_of_ok {payload : Payload} (h : ofNode? entry = .ok payload) :
    accepted (entry :: rest) = payload :: accepted rest := by
  simp [accepted, h, Except.toOption]

theorem accepted_cons_of_error {error : ConfigurationError} (h : ofNode? entry = .error error) :
    accepted (entry :: rest) = accepted rest := by
  simp [accepted, h, Except.toOption]

theorem refusals_cons_of_ok {payload : Payload} (h : ofNode? entry = .ok payload) :
    (entry :: rest).filterMap refusal? = rest.filterMap refusal? :=
  List.filterMap_cons_none (by rw [refusal?, h])

theorem refusals_cons_of_error {error : ConfigurationError} (h : ofNode? entry = .error error) :
    (entry :: rest).filterMap refusal? = error :: rest.filterMap refusal? :=
  List.filterMap_cons_some (by rw [refusal?, h])

end

theorem refusal?_eq_none_iff {entry : Node} :
    refusal? entry = none ↔ ∃ payload, entry.Specifies payload := by
  simp only [refusal?, ← ofNode?_eq_ok_iff]
  cases ofNode? entry <;> simp

theorem mem_accepted_iff {entries : List Node} {payload : Payload} :
    payload ∈ accepted entries ↔ ∃ entry ∈ entries, entry.Specifies payload := by
  simp only [accepted, List.mem_filterMap, ← ofNode?_eq_ok_iff]
  refine exists_congr fun entry => and_congr_right fun _ => ?_
  cases ofNode? entry <;> simp [Except.toOption]

theorem accepted_append (first second : List Node) :
    accepted (first ++ second) = accepted first ++ accepted second :=
  List.filterMap_append

theorem First.cons {entry : Node} {rest : List Node} {name : String} {payload : Payload}
    (hentry : ∀ other, entry.Specifies other → other.name ≠ name) (h : First rest name payload) :
    First (entry :: rest) name payload := by
  obtain ⟨before, found, behind, rfl, hfound, hname, hbefore⟩ := h
  exact ⟨entry :: before, found, behind, rfl, hfound, hname,
    List.forall_mem_cons.mpr ⟨hentry, hbefore⟩⟩

/-- the first accepted payload of a name is that of the first entry that stands for it -/
theorem first_iff {entries : List Node} {name : String} {payload : Payload} :
    First entries name payload ↔ (accepted entries).find? (·.name == name) = some payload := by
  constructor
  · rintro ⟨before, entry, behind, rfl, hentry, hname, hbefore⟩
    have hnone : (accepted before).find? (·.name == name) = none := by
      rw [List.find?_eq_none]
      intro other hother
      obtain ⟨earlier, hearlier, hspecifies⟩ := mem_accepted_iff.mp hother
      simpa using hbefore earlier hearlier other hspecifies
    rw [accepted_append, List.find?_append, hnone,
      accepted_cons_of_ok (ofNode?_eq_ok_iff.mpr hentry),
      List.find?_cons_of_pos (by simpa using hname)]
    rfl
  · intro h
    induction entries with
    | nil => exact nomatch h
    | cons entry rest ih =>
      cases hread : ofNode? entry with
      | error error =>
        rw [accepted_cons_of_error hread] at h
        refine .cons (fun other hother => ?_) (ih h)
        rw [ofNode?_eq_ok_iff.mpr hother] at hread
        exact nomatch hread
      | ok found =>
        rw [accepted_cons_of_ok hread] at h
        by_cases hname : found.name = name
        · rw [List.find?_cons_of_pos (by simpa using hname)] at h
          obtain rfl := Option.some.inj h
          exact ⟨[], entry, rest, rfl, ofNode?_eq_ok_iff.mp hread, hname, nofun⟩
        · rw [List.find?_cons_of_neg (by simpa using hname)] at h
          refine .cons (fun other hother => ?_) (ih h)
          rw [ofNode?_eq_ok_iff.mpr hother] at hread
          obtain rfl := Except.ok.inj hread
          exact hname

end Payload

namespace Intersection

open Payload

/-- the warning that a state of the name is already defined -/
def repeated (name : String) : Record :=
  .warn ("Duplicate StateName '" ++ name ++ "' ignored, keeping the first")

/-- the line logged for an entry that is accepted -/
def named (payload : Payload) : Record := .info ("      - StateName: " ++ payload.name)

theorem repeated_inj {name other : String} : repeated name = repeated other ↔ name = other := by
  simp [repeated, Record.warn]

theorem named_ne_repeated (payload : Payload) (name : String) : named payload ≠ repeated name := by
  intro h
  have hlevel : Level.info = Level.warn := congrArg Record.level h
  exact nomatch hlevel

theorem defined?_append (name : String) (first second : List Payload) :
    defined? name (first ++ second) = (defined? name first).or (defined? name second) :=
  List.find?_append

/-! ## reading the entries -/

/-- what is known of the entries that were read after some states were known -/
structure StateList.Accounts (known : List Payload) (entries : List Node) (list : StateList) :
    Prop where
  errors : list.errors = entries.filterMap refusal?
  first : ∀ name, defined? name list.states = defined? name (known ++ accepted entries)
  distinct : (known.map (·.name)).Nodup → (list.states.map (·.name)).Nodup
  /-- each accepted entry of a name is a state or has its warning -/
  named : ∀ name, list.states.countP (·.name == name) + list.log.count (repeated name) =
    known.countP (·.name == name) + (accepted entries).countP (·.name == name)
  balance : known.length + entries.length =
    list.states.length + (list.log.filter (·.level = .warn)).length + list.errors.length
  quiet : list.log.filter (·.level = .error) = []

namespace StateList.Accounts

variable {known : List Payload} {entry : Node} {entries : List Node} {list : StateList}
  {payload : Payload}

theorem nil (known : List Payload) : Accounts known [] ⟨known, [], []⟩ where
  errors := rfl
  first name := by simp [accepted]
  distinct h := h
  named name := by simp [accepted]
  balance := by simp
  quiet := rfl

theorem refuse {error : ConfigurationError} (h : Accounts known entries list)
    (hentry : ofNode? entry = .error error) :
    Accounts known (entry :: entries) { list with errors := error :: list.errors } where
  errors := by rw [refusals_cons_of_error hentry, h.errors]
  first name := by rw [accepted_cons_of_error hentry, h.first]
  distinct := h.distinct
  named name := by rw [accepted_cons_of_error hentry, h.named]
  balance := by
    have hbalance := h.balance
    simp only [List.length_cons]
    omega
  quiet := h.quiet

/-- an entry whose name is known leaves the states alone, and is warned about -/
theorem again (h : Accounts known entries list) (hentry : ofNode? entry = .ok payload)
    (hknown : (defined? payload.name known).isSome = true) :
    Accounts known (entry :: entries)
      { list with
        log := Intersection.named payload :: repeated payload.name :: list.log } where
  errors := by rw [refusals_cons_of_ok hentry, h.errors]
  first name := by
    rw [accepted_cons_of_ok hentry, h.first, defined?_append, defined?_append]
    by_cases hname : payload.name = name
    · obtain ⟨found, hfound⟩ := Option.isSome_iff_exists.mp hknown
      rw [← hname, hfound]
      rfl
    · have hskip : defined? name (payload :: accepted entries) = defined? name (accepted entries) :=
        List.find?_cons_of_neg (by simpa using hname)
      rw [hskip]
  distinct := h.distinct
  named name := by
    have hnamed := h.named name
    rw [accepted_cons_of_ok hentry, List.countP_cons,
      List.count_cons_of_ne (named_ne_repeated payload name), List.count_cons]
    simp only [beq_iff_eq, repeated_inj]
    omega
  balance := by
    have hbalance := h.balance
    have hwarnings : (Intersection.named payload :: repeated payload.name :: list.log).filter
        (·.level = .warn) = repeated payload.name :: list.log.filter (·.level = .warn) := rfl
    rw [hwarnings]
    simp only [List.length_cons]
    omega
  quiet := h.quiet

/-- an entry whose name is new is a state, known to those that follow -/
theorem add (h : Accounts (known ++ [payload]) entries list) (hentry : ofNode? entry = .ok payload)
    (hnew : defined? payload.name known = none) :
    Accounts known (entry :: entries)
      { list with log := Intersection.named payload :: list.log } where
  errors := by rw [refusals_cons_of_ok hentry, h.errors]
  first name := by
    rw [accepted_cons_of_ok hentry, h.first, List.append_assoc, List.singleton_append]
  distinct hdistinct := by
    have hname : payload.name ∉ known.map (·.name) := by
      intro hmem
      obtain ⟨other, hother, hsame⟩ := List.mem_map.mp hmem
      exact List.find?_eq_none.mp hnew other hother (by simpa using hsame)
    apply h.distinct
    rw [List.map_append, List.nodup_append]
    refine ⟨hdistinct, by simp, fun other hother name hmem => ?_⟩
    rw [List.map_singleton, List.mem_singleton] at hmem
    rintro rfl
    exact hname (hmem ▸ hother)
  named name := by
    have hnamed := h.named name
    rw [List.countP_append, List.countP_singleton] at hnamed
    show list.states.countP _ + _ = _
    rw [accepted_cons_of_ok hentry, List.countP_cons,
      List.count_cons_of_ne (named_ne_repeated payload name)]
    omega
  balance := by
    have hbalance := h.balance
    have hwarnings : (Intersection.named payload :: list.log).filter (·.level = .warn) =
        list.log.filter (·.level = .warn) := rfl
    rw [List.length_append, List.length_singleton] at hbalance
    rw [hwarnings]
    simp only [List.length_cons]
    omega
  quiet := h.quiet

end StateList.Accounts

/-- **Every entry is accounted for**, whatever entries there are and whatever was known before. -/
theorem accounts_readStates (entries : List Node) (known : List Payload) :
    (readStates entries known).Accounts known entries := by
  -- the states that are known grow from entry to entry
  induction entries generalizing known with
  | nil => exact .nil known
  | cons entry rest ih =>
    rw [readStates]
    cases hentry : ofNode? entry with
    | error error => exact (ih known).refuse hentry
    | ok payload =>
      by_cases hknown : (defined? payload.name known).isSome = true
      · simp only [hknown, if_true]
        exact (ih known).again hentry hknown
      · simp only [hknown]
        exact (ih (known ++ [payload])).add hentry (by simpa using hknown)

/-! ## the whole block -/

/-- the lights of the block; nothing is logged for them but a line of information -/
theorem lights_readIds (block : Node) :
    ∃ error?, block.Lights (readIds block).1 error? ∧ (readIds block).2.1 = error?.toList ∧
      ∀ record ∈ (readIds block).2.2, record.level = .info := by
  rw [readIds]
  cases hvalue : block.get? "TrafficLightId" with
  | none =>
    rw [Node.required_of_get?_none hvalue]
    exact ⟨_, .missing hvalue, rfl, nofun⟩
  | some value =>
    rw [Node.required_of_get?_some hvalue, Node.decodeAt]
    cases hids : value.asNaturals with
    | error reason => exact ⟨_, .mistyped hvalue hids, rfl, nofun⟩
    | ok ids =>
      cases ids with
      | nil => exact ⟨_, .empty hvalue hids, rfl, nofun⟩
      | cons id ids => exact ⟨none, .listed hvalue hids, rfl, by simp [Record.info]⟩

/-- the states of the block are those of its entries, in front of which one line may be logged -/
theorem states_readControl (block : Node) :
    ∃ entries error? list heading, block.States entries error? ∧
      StateList.Accounts [] entries list ∧
      readControl block =
        { list with errors := error?.toList ++ list.errors, log := heading ++ list.log } ∧
      ∀ record ∈ heading, record.level = .info := by
  have hnone := StateList.Accounts.nil []
  rw [readControl]
  cases hvalue : block.get? "Control" with
  | none => exact ⟨[], _, _, [], .missing hvalue, hnone, rfl, nofun⟩
  | some value =>
    cases value with
    | sequence entries =>
      exact ⟨entries, none, _, [.info "    Control:"], .listed hvalue,
        accounts_readStates entries [], rfl, by simp [Record.info]⟩
    | null | bool | number | text | mapping | tagged =>
      exact ⟨[], _, _, [], .noList hvalue nofun, hnone, rfl, nofun⟩

/-- records of information do not count at another level -/
theorem filter_level_append {level : Level} (hlevel : level ≠ .info) {front : List Record}
    (hfront : ∀ record ∈ front, record.level = .info) (rest : List Record) :
    (front ++ rest).filter (·.level = level) = rest.filter (·.level = level) := by
  have hnone : front.filter (·.level = level) = [] := by
    rw [List.filter_eq_nil_iff]
    intro record hrecord
    rw [hfront record hrecord]
    simpa using hlevel.symm
  rw [List.filter_append, hnone, List.nil_append]

/-- a name is defined by the accepted entries exactly if one of them stands for it -/
theorem isSome_defined?_accepted {name : String} {entries : List Node} :
    (defined? name (accepted entries)).isSome = true ↔ Defines entries name := by
  rw [defined?, List.find?_isSome]
  constructor
  · rintro ⟨payload, hmem, hname⟩
    obtain ⟨entry, hentry, hpayload⟩ := mem_accepted_iff.mp hmem
    exact ⟨entry, hentry, payload, hpayload, by simpa using hname⟩
  · rintro ⟨entry, hentry, payload, hpayload, hname⟩
    exact ⟨payload, mem_accepted_iff.mpr ⟨entry, hentry, hpayload⟩, by simpa using hname⟩

theorem count_repeated (name : String) (log : List Record) :
    log.count (repeated name) = (log.filter (·.level = .warn)).count (repeated name) :=
  (List.count_filter rfl).symm

/-- **Building an intersection loses nothing**, whatever the block is. Its errors are in order what
is wrong with the lights, what is wrong with the state list as such, and why entries are refused;
each is logged once as an error, and nothing else is. A name has a state exactly if some entry
stands for one of that name, and the first such entry counts; every other name is off. Each entry
is a state, or has one warning that its name is taken, or has one error. -/
theorem ofNode_loses_nothing (block : Node) :
    let i := (ofNode block).1
    let log := (ofNode block).2
    ∃ lightError? entries listError?,
      block.Lights i.ids lightError? ∧ block.States entries listError? ∧
      i.errors = lightError?.toList ++ listError?.toList ++ entries.filterMap refusal? ∧
      (∀ entry, refusal? entry = none ↔ ∃ payload, entry.Specifies payload) ∧
      log.filter (·.level = .error) = i.errors.map (fun error => .error error.message) ∧
      (∀ name, i.hasState name = true ↔ Defines entries name) ∧
      (∀ name, i.hasState name = true → First entries name (i.state name)) ∧
      (∀ name, i.hasState name = false → i.state name = ⟨"Blank", "Blank", "Blank", .null⟩) ∧
      (i.states.map (·.name)).Nodup ∧
      (∀ name, i.states.countP (·.name == name) + log.count (repeated name) =
        (accepted entries).countP (·.name == name)) ∧
      entries.length = i.states.length + (log.filter (·.level = .warn)).length +
        (entries.filterMap refusal?).length := by
  intro i log
  obtain ⟨lightError?, hlights, hidErrors, hidLog⟩ := lights_readIds block
  obtain ⟨entries, listError?, list, heading, hstates, haccounts, hcontrol, hheading⟩ :=
    states_readControl block
  have hs : i.states = list.states := by
    show (readControl block).states = _
    rw [hcontrol]
  have herrors : i.errors = lightError?.toList ++ (listError?.toList ++ list.errors) := by
    show (readIds block).2.1 ++ (readControl block).errors = _
    rw [hidErrors, hcontrol]
  have hlog : log = (readIds block).2.2 ++ (heading ++ (list.log ++
      i.errors.map fun error => .error error.message)) := by
    show (readIds block).2.2 ++ (readControl block).log ++ i.errors.map _ = _
    rw [hcontrol, List.append_assoc, List.append_assoc]
  have hlevel : ∀ level ≠ Level.info, log.filter (·.level = level) =
      list.log.filter (·.level = level) ++
        (i.errors.map fun error => Record.error error.message).filter (·.level = level) := by
    intro level hne
    rw [hlog, filter_level_append hne hidLog, filter_level_append hne hheading, List.filter_append]
  have hwarnings : log.filter (·.level = .warn) = list.log.filter (·.level = .warn) := by
    rw [hlevel .warn nofun]
    simp [Record.error]
  have hdefined : ∀ name, defined? name i.states = defined? name (accepted entries) :=
    hs ▸ haccounts.first
  refine ⟨lightError?, entries, listError?, hlights, hstates, ?_, fun _ => refusal?_eq_none_iff, ?_,
    fun name => ?_, fun name hname => ?_, fun name hname => ?_, ?_, fun name => ?_, ?_⟩
  · rw [herrors, haccounts.errors, List.append_assoc]
  · rw [hlevel .error nofun, haccounts.quiet]
    simp [Record.error]
  · rw [hasState, hdefined, isSome_defined?_accepted]
  · rw [hasState, hdefined] at hname
    obtain ⟨payload, hpayload⟩ := Option.isSome_iff_exists.mp hname
    rw [state, hdefined, hpayload]
    exact first_iff.mpr hpayload
  · rw [hasState, Option.isSome_eq_false_iff, Option.isNone_iff_eq_none] at hname
    rw [state, hname]
    rfl
  · rw [hs]
    exact haccounts.distinct List.nodup_nil
  · rw [count_repeated, hwarnings, ← count_repeated, hs, haccounts.named]
    simp
  · have hbalance := haccounts.balance
    rw [hwarnings, hs, ← haccounts.errors]
    simpa using hbalance

end Intersection

end SignalScript
