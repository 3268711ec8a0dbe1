import SignalScript.Node.Basic
import SignalScript.Yaml.Cursor

/-!
# Tags

Every octet of a tag may be escaped, so a tag is a row of octets and need not be a text.

* `Octets.ofText`      the octets of a text, and back: `Octets.text?_ofText`;
* `Octets.beforeZero`  a tag ends before its first zero;
* `resolveTag`         a tag as its handle is declared;
* `TagMeaning.ofTag`   what a tag says: a name of the script's own, or something about the value.
-/

namespace SignalScript.Yaml

abbrev Octets := List UInt8

namespace Octets

def ofText (text : String) : Octets := text.toUTF8.data.toList

/-- the text that the octets are, if they are one -/
def text? (octets : Octets) : Option String := String.fromUTF8? ⟨octets.toArray⟩

/-- the octets of a text are that text -/
theorem text?_ofText (text : String) : (ofText text).text? = some text := by
  have same : (⟨text.toUTF8.data.toList.toArray⟩ : ByteArray) = text.toUTF8 := by simp
  simp only [text?, ofText, same]
  unfold String.fromUTF8?
  split
  · rfl
  · next invalid => exact absurd text.isValidUTF8 invalid

/-- the octets before the first zero -/
def beforeZero (octets : Octets) : Octets := octets.takeWhile (· ≠ 0)

end Octets

/-! ## handles -/

/-- what the tags of the standard start with -/
def standardStart : String := "tag:yaml.org,2002:"

/-- a tag of the standard -/
def standardTag (kind : String) : Octets := .ofText (standardStart ++ kind)

/-- the handles that have a meaning from the start -/
def givenHandles : List (String × Octets) :=
  [("!", .ofText "!"), ("!!", .ofText standardStart)]

/-- a tag as its handle is declared; a tag without a handle is complete -/
def resolveTag (handles : List (String × Octets)) (handle : String) (suffix : Octets) :
    Except Defect Octets :=
  if handle.isEmpty then .ok suffix
  else
    match (handles ++ givenHandles).lookup handle with
    | some replacement => .ok (replacement ++ suffix)
    | none => .error .undefinedHandle

/-! ## meanings -/

/-- what a tag says about its node -/
inductive TagMeaning where
  /-- it starts with `!`: a tag of the script itself, under its name -/
  | own (name : String)
  /-- it starts with `!`, but what follows is no text -/
  | nameless
  /-- it may be a tag of the standard -/
  | foreign

/-- `!` alone is its own name -/
def TagMeaning.ofTag (tag : Octets) : TagMeaning :=
  match tag with
  | [] => .foreign
  | first :: rest =>
    if first ≠ 0x21 then .foreign
    else if rest.isEmpty then .own "!"
    else
      match Octets.text? rest with
      | some name => .own (Node.tagName name)
      | none => .nameless

end SignalScript.Yaml
