import SignalScript.Intersection.Payload

/-!
# Control entries

An entry of a state list is accepted for what its keys and values are. Tags do not count in either,
except that the name of the state stands under a key without a tag.

* `Payload.Field`       the fields that an entry may have;
* `Node.given`          what the entries of a mapping give to a field;
* `Node.Orderly`        every key is a text, and each field is given one text or nothing;
* `Node.Specifies`      an entry, and the payload that it stands for;
* `Payload.readFields_eq_ok_iff`  what the reader of the fields makes of a mapping;
* `Payload.ofNode?_eq_ok_iff`     an entry is accepted exactly as the payload it stands for.
-/

namespace SignalScript

/-! ## fields -/

namespace Payload

inductive Field where
  | name
  | color
  | arrow
  deriving DecidableEq

namespace Field

def key : Field → String
  | .name => "StateName"
  | .color => "Color"
  | .arrow => "Arrow"

theorem key_inj {field other : Field} (h : field.key = other.key) : field = other := by
  revert h
  cases field <;> cases other <;> decide

end Field

namespace Fields

def get : Field → Fields → Option String
  | .name, fields => fields.name
  | .color, fields => fields.color
  | .arrow, fields => fields.arrow

def put (text : String) : Field → Fields → Fields
  | .name, fields => { fields with name := some text }
  | .color, fields => { fields with color := some text }
  | .arrow, fields => { fields with arrow := some text }

theorem get_put_self (text : String) (field : Field) (fields : Fields) :
    (fields.put text field).get field = some text := by
  cases field <;> rfl

theorem get_put_ne (text : String) {field other : Field} (h : other ≠ field) (fields : Fields) :
    (fields.put text field).get other = fields.get other := by
  cases field <;> cases other <;> first | rfl | exact absurd rfl h

theorem ext_get {first second : Fields} (h : ∀ field, first.get field = second.get field) :
    first = second := by
  have hname : first.name = second.name := h .name
  have hcolor : first.color = second.color := h .color
  have harrow : first.arrow = second.arrow := h .arrow
  cases first
  cases second
  simp_all

end Fields

end Payload

namespace Node

/-- what the entries of a mapping give to a field, in order -/
def given (field : String) (pairs : List (Node × Node)) : List Node :=
  (pairs.filter (·.1.untag.isText field)).map (·.2.untag)

/-- one text, or nothing -/
def written (text? : Option String) : List Node := text?.toList.map .text

theorem written_none : written none = [] := rfl
theorem written_some (text : String) : written (some text) = [.text text] := rfl

theorem written_inj {first second : Option String} (h : written first = written second) :
    first = second := by
  cases first <;> cases second <;> simp_all [written]

section
variable {field name : String} {key value : Node} {rest : List (Node × Node)}

theorem given_cons_self (h : key.untag = .text field) :
    given field ((key, value) :: rest) = value.untag :: given field rest := by
  simp [given, h, isText]

theorem given_cons_ne (h : key.untag = .text name) (hne : name ≠ field) :
    given field ((key, value) :: rest) = given field rest := by
  simp [given, h, isText, hne]

end

theorem mem_of_lookup {key : String} {pairs : List (Node × Node)} {value : Node}
    (h : lookup key pairs = some value) : (.text key, value) ∈ pairs := by
  induction pairs with
  | nil => exact nomatch h
  | cons pair rest ih =>
    obtain ⟨other, found⟩ := pair
    rw [lookup_cons] at h
    split at h
    · rename_i hkey
      obtain rfl := Option.some.inj h
      cases other with
      | text name =>
        obtain rfl : name = key := by simpa [isText] using hkey
        exact List.mem_cons_self
      | null | bool | number | sequence | mapping | tagged => exact nomatch hkey
    · exact List.mem_cons_of_mem _ (ih h)

/-- every key is a text, and each of the fields is given one text or nothing -/
structure Orderly (pairs : List (Node × Node)) : Prop where
  keys : ∀ pair ∈ pairs, ∃ key, pair.1.untag = .text key
  fields : ∀ field : Payload.Field, ∃ text?, given field.key pairs = written text?

/-- the entry stands for the payload: a state under its name, with the colour and the arrow that are
given, off where none is, and with the entry itself behind it -/
structure Specifies (entry : Node) (payload : Payload) : Prop where
  raw : payload.raw = entry
  named : ∃ value, entry.get? "StateName" = some value
  fields : ∃ pairs color arrow, entry.untag = .mapping pairs ∧
    (∀ pair ∈ pairs, ∃ key, pair.1.untag = .text key) ∧
    given "StateName" pairs = [.text payload.name] ∧
    given "Color" pairs = written color ∧ payload.color = color.getD "Blank" ∧
    given "Arrow" pairs = written arrow ∧ payload.arrow = arrow.getD "Blank"

end Node

namespace Payload

open Node

/-! ## reading one field -/

/-- a field is read exactly if it was not met before and has a text -/
theorem readField_iff {field : String} {seen text? : Option String} {value : Node}
    {rest : List Node} :
    (∃ text, readField field seen value = .ok text ∧ written (some text) ++ rest = written text?) ↔
      written seen ++ value.untag :: rest = written text? := by
  cases seen with
  | some text =>
    -- two values are more than any field may have
    constructor
    · rintro ⟨text, h, _⟩
      exact nomatch h
    · intro h
      cases text? <;> simp [written] at h
  | none =>
    rw [written_none, List.nil_append]
    unfold readField asText
    cases hvalue : value.untag with
    | text text => simp [written_some]
    | null | bool | number | sequence | mapping | tagged =>
      constructor
      · rintro ⟨text, h, _⟩
        exact nomatch h
      · intro h
        cases text? <;> simp [written] at h

/-- a key is that of a field, or another text, or no text -/
theorem key_cases (key : Node) :
    (∃ field : Field, key.untag = .text field.key) ∨
      (∃ name, key.untag = .text name ∧ ∀ field : Field, name ≠ field.key) ∨
      ∀ name, key.untag ≠ .text name := by
  cases hkey : key.untag with
  | text name =>
    by_cases hfield : ∃ field : Field, name = field.key
    · obtain ⟨field, rfl⟩ := hfield
      exact .inl ⟨field, rfl⟩
    · exact .inr (.inl ⟨name, rfl, not_exists.mp hfield⟩)
  | null | bool | number | sequence | mapping | tagged => exact .inr (.inr nofun)

section
variable {key value : Node} {rest : List (Node × Node)} {seen : Fields}

theorem readFields_cons_field {field : Field} (h : key.untag = .text field.key) :
    readFields ((key, value) :: rest) seen =
      match readField field.key (seen.get field) value with
      | .ok result => readFields rest (seen.put result field)
      | .error reason => .error reason := by
  cases field <;> simp only [readFields, h, Field.key] <;> rfl

theorem readFields_cons_other {name : String} (h : key.untag = .text name)
    (hother : ∀ field : Field, name ≠ field.key) :
    readFields ((key, value) :: rest) seen = readFields rest seen := by
  have hname : name ≠ "StateName" := hother .name
  have hcolor : name ≠ "Color" := hother .color
  have harrow : name ≠ "Arrow" := hother .arrow
  rw [readFields, h]
  split <;> simp_all

theorem readFields_cons_no_text (h : ∀ name, key.untag ≠ .text name) :
    readFields ((key, value) :: rest) seen = .error (.kind key.untag "field identifier") := by
  rw [readFields]
  split <;> simp_all

end

/-! ## reading all of them -/

/-- after the entries of a mapping each field has what it had before and what they give to it -/
structure Fields.Reads (pairs : List (Node × Node)) (seen fields : Fields) : Prop where
  keys : ∀ pair ∈ pairs, ∃ key, pair.1.untag = .text key
  fields : ∀ field : Field,
    written (seen.get field) ++ given field.key pairs = written (fields.get field)

namespace Fields

theorem reads_nil_iff {seen fields : Fields} : Reads [] seen fields ↔ seen = fields := by
  constructor
  · intro h
    exact ext_get fun field => written_inj ((List.append_nil _).symm.trans (h.fields field))
  · rintro rfl
    exact ⟨nofun, fun field => List.append_nil _⟩

section
variable {key value : Node} {rest : List (Node × Node)} {seen fields : Fields}

theorem reads_cons_field_iff {field : Field} (hkey : key.untag = .text field.key) :
    Reads ((key, value) :: rest) seen fields ↔
      ∃ result, readField field.key (seen.get field) value = .ok result ∧
        Reads rest (seen.put result field) fields := by
  have hne : ∀ other : Field, other ≠ field → field.key ≠ other.key :=
    fun other hother h => hother (Field.key_inj h).symm
  constructor
  · intro h
    have hfield := h.fields field
    rw [given_cons_self hkey] at hfield
    obtain ⟨result, hread, hrest⟩ := readField_iff.mpr hfield
    refine ⟨result, hread, (List.forall_mem_cons.mp h.keys).2, fun other => ?_⟩
    by_cases hother : other = field
    · subst hother
      rw [get_put_self]
      exact hrest
    · have hfields := h.fields other
      rw [given_cons_ne hkey (hne other hother)] at hfields
      rw [get_put_ne result hother]
      exact hfields
  · rintro ⟨result, hread, hrest⟩
    refine ⟨List.forall_mem_cons.mpr ⟨⟨_, hkey⟩, hrest.keys⟩, fun other => ?_⟩
    have hfields := hrest.fields other
    by_cases hother : other = field
    · subst hother
      rw [get_put_self] at hfields
      rw [given_cons_self hkey]
      exact readField_iff.mp ⟨result, hread, hfields⟩
    · rw [get_put_ne result hother] at hfields
      rw [given_cons_ne hkey (hne other hother)]
      exact hfields

theorem reads_cons_other_iff {name : String} (hkey : key.untag = .text name)
    (hother : ∀ field : Field, name ≠ field.key) :
    Reads ((key, value) :: rest) seen fields ↔ Reads rest seen fields := by
  have hgiven : ∀ field : Field,
      given field.key ((key, value) :: rest) = given field.key rest :=
    fun field => given_cons_ne hkey (hother field)
  constructor
  · intro h
    refine ⟨(List.forall_mem_cons.mp h.keys).2, fun field => ?_⟩
    rw [← hgiven]
    exact h.fields field
  · intro h
    refine ⟨List.forall_mem_cons.mpr ⟨⟨_, hkey⟩, h.keys⟩, fun field => ?_⟩
    rw [hgiven]
    exact h.fields field

end

end Fields

/-- **The reader of the fields** accepts the entries of a mapping exactly if their keys are texts
and no field gets more than one text. -/
theorem readFields_eq_ok_iff {pairs : List (Node × Node)} {seen fields : Fields} :
    readFields pairs seen = .ok fields ↔ Fields.Reads pairs seen fields := by
  induction pairs generalizing seen with
  | nil => rw [readFields, Fields.reads_nil_iff, Except.ok.injEq]
  | cons pair rest ih =>
    obtain ⟨key, value⟩ := pair
    obtain ⟨field, hkey⟩ | ⟨name, hkey, hother⟩ | hkey := key_cases key
    · rw [readFields_cons_field hkey, Fields.reads_cons_field_iff hkey]
      cases hread : readField field.key (seen.get field) value with
      | error reason => simp
      | ok result => simp [ih]
    · rw [readFields_cons_other hkey hother, Fields.reads_cons_other_iff hkey hother, ih]
    · rw [readFields_cons_no_text hkey]
      constructor
      · intro h
        exact nomatch h
      · intro h
        obtain ⟨name, hname⟩ := h.keys _ List.mem_cons_self
        exact absurd hname (hkey name)

/-! ## entries -/

section
variable {entry value : Node} {pairs : List (Node × Node)} {payload : Payload}

/-- an entry that names a state is read by its fields -/
theorem ofNode?_of_named (hvalue : entry.get? "StateName" = some value)
    (hpairs : entry.untag = .mapping pairs) :
    ofNode? entry = match readFields pairs {} with
      | .ok fields =>
        .ok ⟨fields.name.getD "", fields.color.getD "Blank", fields.arrow.getD "Blank", entry⟩
      | .error reason => .error (.invalidValue "Control" reason) := by
  rw [ofNode?, hvalue, hpairs]
  rfl

theorem ofNode?_of_nameless (h : entry.get? "StateName" = none) :
    ofNode? entry = .error (.missingKey "StateName" "Control" entry) := by
  rw [ofNode?, h]

theorem exists_mapping_of_named (h : entry.get? "StateName" = some value) :
    ∃ pairs, entry.untag = .mapping pairs := by
  have hmapping := isMapping_of_get? h
  rw [isMapping] at hmapping
  split at hmapping
  · exact ⟨_, ‹_›⟩
  · exact absurd hmapping Bool.false_ne_true

/-- the name that an entry is found to have is among those that it is given -/
theorem untag_mem_given_of_named (hvalue : entry.get? "StateName" = some value)
    (hpairs : entry.untag = .mapping pairs) : value.untag ∈ given "StateName" pairs := by
  rw [get?, hpairs] at hvalue
  have hpair := mem_of_lookup hvalue
  exact List.mem_map.mpr ⟨_, List.mem_filter.mpr ⟨hpair, by simp [untag, isText]⟩, rfl⟩

/-- **An entry is accepted exactly as the payload that it stands for.** -/
theorem ofNode?_eq_ok_iff : ofNode? entry = .ok payload ↔ entry.Specifies payload := by
  constructor
  · intro h
    cases hvalue : entry.get? "StateName" with
    | none =>
      rw [ofNode?_of_nameless hvalue] at h
      exact nomatch h
    | some value =>
      obtain ⟨pairs, hpairs⟩ := exists_mapping_of_named hvalue
      rw [ofNode?_of_named hvalue hpairs] at h
      cases hread : readFields pairs {} with
      | error reason => rw [hread] at h; exact nomatch h
      | ok fields =>
        rw [hread] at h
        obtain rfl := Except.ok.inj h
        have hreads := readFields_eq_ok_iff.mp hread
        have hname : given "StateName" pairs = written fields.name := hreads.fields .name
        have hgiven := untag_mem_given_of_named hvalue hpairs
        refine ⟨rfl, ⟨value, hvalue⟩, pairs, fields.color, fields.arrow, hpairs, hreads.keys, ?_,
          hreads.fields .color, rfl, hreads.fields .arrow, rfl⟩
        rw [hname] at hgiven ⊢
        cases hfound : fields.name with
        | none =>
          rw [hfound] at hgiven
          exact absurd hgiven List.not_mem_nil
        | some name => rfl
  · rintro ⟨hraw, ⟨value, hvalue⟩, hfields⟩
    obtain ⟨pairs, color, arrow, hpairs, hkeys, hname, hcolor, hc, harrow, ha⟩ := hfields
    have hreads : Fields.Reads pairs {} ⟨some payload.name, color, arrow⟩ := by
      refine ⟨hkeys, fun field => ?_⟩
      cases field with
      | name => exact hname
      | color => exact hcolor
      | arrow => exact harrow
    rw [ofNode?_of_named hvalue hpairs, readFields_eq_ok_iff.mpr hreads]
    show Except.ok (⟨payload.name, color.getD "Blank", arrow.getD "Blank", entry⟩ : Payload) = _
    rw [← hc, ← ha, ← hraw]

end

end Payload

end SignalScript
