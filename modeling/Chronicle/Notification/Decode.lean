import Chronicle.Json.Reader
import Chronicle.Notification.Fields

/-!
Reading a notification from a line of text.  Faults are reported in reading order: the value of the
tag is judged as soon as it is reached, the fields once the record is complete, and what follows the
record last.
-/

namespace Chronicle.Notification

/-- Why a line holds no notification: the text of a JSON value is cut off, or is no such text, or the
value is no notification. -/
inductive DecodeFault where
  | truncated
  | malformed
  | mismatched
deriving DecidableEq, Repr, Inhabited

def DecodeFault.ofJson : Json.Fault → DecodeFault
  | .truncated => .truncated
  | .malformed => .malformed

/-- A fault and the line it is in. -/
structure DecodeError where
  line : Nat
  fault : DecodeFault
deriving DecidableEq, Repr, Inhabited

open Json.Reader

/-- A JSON reader whose faults are faults of decoding. -/
def lift {α : Type} (r : Except Json.Fault α) : Except DecodeFault α := r.mapError .ofJson

/-- The tag at the front of the text.  A container there is not looked into. -/
def readTag (cs : List Char) : Except DecodeFault (Tag × List Char) :=
  match skipSpace cs with
  | '[' :: _ => .error .mismatched
  | '\x7b' :: _ => .error .mismatched
  | cs =>
    match lift (value 1 0 cs) with
    | .error e => .error e
    | .ok (.text s, rest) =>
      match Tag.ofName? s with
      | some tag => .ok (tag, rest)
      | none => .error .mismatched
    | .ok _ => .error .mismatched

/-- The members of a record up to its end, the tag apart from the fields. -/
def readMembers (fuel : Nat) (tag : Option Tag) (isFirst : Bool) (cs : List Char) :
    Except DecodeFault ((Tag × List (String × Json)) × List Char) :=
  match fuel with
  | 0 => .error .malformed
  | fuel + 1 =>
    match lift (memberKey isFirst cs) with
    | .error e => .error e
    | .ok (.done rest) =>
      match tag with
      | none => .error .mismatched
      | some tag => .ok ((tag, []), rest)
    | .ok (.item key rest) =>
      if key = tagName then
        if tag.isSome then .error .mismatched
        else match lift (colon rest) with
          | .error e => .error e
          | .ok rest =>
            match readTag rest with
            | .error e => .error e
            | .ok (tag, rest) => readMembers fuel (some tag) false rest
      else match lift (colon rest) with
        | .error e => .error e
        | .ok rest =>
          match lift (value fuel (maxDepth - 1) rest) with
          | .error e => .error e
          | .ok (v, rest) =>
            (readMembers fuel tag false rest).map fun ((tag, ms), rest) =>
              ((tag, (key, v) :: ms), rest)

/-- The record at the front of the text: its tag and its fields. -/
def readRecord (cs : List Char) : Except DecodeFault ((Tag × Fields) × List Char) :=
  let fuel := fuelFor cs
  match skipSpace cs with
  | '\x7b' :: rest =>
    (readMembers fuel none true rest).map fun ((tag, ms), rest) => ((tag, .named ms), rest)
  | '[' :: rest =>
    match lift (element true rest) with
    | .error e => .error e
    | .ok (.done _) => .error .mismatched
    | .ok (.item () rest) =>
      match readTag rest with
      | .error e => .error e
      | .ok (tag, rest) =>
        match lift (elements fuel (maxDepth - 1) false rest) with
        | .error e => .error e
        | .ok (items, rest) => .ok ((tag, .placed items), rest)
  | cs =>
    match lift (value fuel maxDepth cs) with
    | .error e => .error e
    | .ok _ => .error .mismatched

/-- The notification that a text holds. -/
def decode (s : String) : Except DecodeFault Notification :=
  match readRecord s.toList with
  | .error e => .error e
  | .ok ((tag, fields), rest) =>
    match ofFields? tag fields with
    | none => .error .mismatched
    | some n => if atEnd rest then .ok n else .error .malformed

/-- The notification in a numbered line. -/
def decodeLine (line : Nat) (s : String) : Except DecodeError Notification :=
  (decode s).mapError (⟨line, ·⟩)

end Chronicle.Notification
