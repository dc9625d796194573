import TabularReport.Document.Reader

/-!
# Reading records chosen by a tag

An entry of the object, or the first item of the array, names the kind of record that the rest holds.
Everything else is set aside until the kind is known.
-/

namespace TabularReport.Reader

/-- Read the name of a kind. -/
def tagName {α : Type} (variants : List (String × α)) (s : Source) : Except ReadError α :=
  match s with
  | .string name => variantOf variants name
  | _ => mismatch "variant identifier" s

/-- Read a part that is set aside: in a text all of it is read. -/
def aside (o : Origin) (s : Source) : Except ReadError Unit :=
  match o, s.value with
  | .text, .error e => .error (.malformed e)
  | _, _ => .ok ()

/-- Take the entries in order, separating the tag from the rest. -/
def separateTag {α : Type} (tag : String) (variants : List (String × α)) (o : Origin) :
    List (String × Source) → Option α → Except ReadError (Option α × List (String × Source))
  | [], found => .ok (found, [])
  | (key, s) :: more, found =>
    if key = tag then
      if found.isSome then .error (.duplicateField tag)
      else
        match tagName variants s with
        | .error e => .error e
        | .ok a => separateTag tag variants o more (some a)
    else
      match aside o s with
      | .error e => .error e
      | .ok _ =>
        match separateTag tag variants o more found with
        | .error e => .error e
        | .ok (found, rest) => .ok (found, (key, s) :: rest)

/-- Set the items aside in order. -/
def asideAll (o : Origin) : List Source → Except ReadError Unit
  | [] => .ok ()
  | s :: rest =>
    match aside o s with
    | .error e => .error e
    | .ok _ => asideAll o rest

/-- Read a record whose kind stands under a tag. -/
def tagged {α : Type} (type tag : String) (variants : List (String × Reader α)) : Reader α
  | o, .object entries stop =>
    match separateTag tag variants o entries none, stop with
    | .error e, _ => .error e
    | .ok _, some cause => .error (.malformed cause)
    | .ok (none, _), none => .error (.missingField tag)
    | .ok (some r, rest), none => r .setAside (.object rest none)
  | o, .array (s :: rest) stop =>
    match tagName variants s with
    | .error e => .error e
    | .ok r =>
      match asideAll o rest, stop with
      | .error e, _ => .error e
      | .ok _, some cause => .error (.malformed cause)
      | .ok _, none => r .setAside (.array rest none)
  | _, .array [] stop =>
    match stop with
    | some cause => .error (.malformed cause)
    | none => .error (.missingField tag)
  | _, s => mismatch ("internally tagged enum " ++ type) s

end TabularReport.Reader
