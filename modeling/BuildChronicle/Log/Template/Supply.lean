import BuildChronicle.Value

/-!
# Arguments of a message template

The places of a template are filled with arguments one after the other. A sole argument that
is a record with fields is also there to be asked by name; asking for a field puts its value
in place of whatever was waiting. Arguments that are left over in the end are an error,
unless they could be asked by name.
-/

namespace BuildChronicle.Template

/-- Why arguments do not fit a template. -/
inductive TemplateError where
  /-- A place is left without argument. -/
  | tooFew
  /-- An argument is left without place. -/
  | tooMany
  /-- A place for a number is given something else, of this kind. -/
  | noNumber (mark : Char) (kindName : String)
  /-- A place for a whole number in another base is given something else, of this kind. -/
  | noInteger (mark : Char) (kindName : String)
  /-- A place for a fractional number is given something else, of this kind. -/
  | noFraction (kindName : String)
  /-- A place for a character is given neither one character nor its number. -/
  | noCharacter
  /-- No character has the number that is given. -/
  | characterRange
  /-- A width or precision to be taken from the arguments is no whole number. -/
  | measureNoInteger
  /-- A width taken from the arguments does not fit a machine word. -/
  | widthOverflow
  /-- A precision taken from the arguments does not fit half a machine word. -/
  | precisionOverflow
  /-- A written width does not fit a machine word. -/
  | widthTooBig
  /-- A written precision does not fit half a machine word. -/
  | precisionTooBig
  /-- Whole numbers are not filled up to this many digits. -/
  | precisionTooLarge
  /-- There is no room for texts of this width. -/
  | noRoom
  /-- A whole number is too large for the format of fractional numbers. -/
  | fractionOverflow
  /-- The template ends within a place. -/
  | incomplete
  /-- The template ends within the name of a field. -/
  | incompleteKey
  /-- A field is asked for, but the arguments have no names. -/
  | noFields
  /-- The arguments have no field of this name. -/
  | missingField (name : String)
  /-- No place is marked by this character, which stands at this position. -/
  | unknownPlace (mark : Char) (position : Nat)
deriving DecidableEq

/-- What is said about it. -/
def TemplateError.message : TemplateError → String
  | tooFew => "not enough arguments for format string"
  | tooMany => "not all arguments converted during string formatting"
  | noNumber mark kindName =>
    "%" ++ String.ofList [mark] ++ " format: a real number is required, not " ++ kindName
  | noInteger mark kindName =>
    "%" ++ String.ofList [mark] ++ " format: an integer is required, not " ++ kindName
  | noFraction kindName => "must be real number, not " ++ kindName
  | noCharacter => "%c requires int or char"
  | characterRange => "%c arg not in range(0x110000)"
  | measureNoInteger => "* wants int"
  | widthOverflow => "Python int too large to convert to C ssize_t"
  | precisionOverflow => "Python int too large to convert to C int"
  | widthTooBig => "width too big"
  | precisionTooBig => "precision too big"
  | precisionTooLarge => "precision too large"
  | noRoom => ""
  | fractionOverflow => "int too large to convert to float"
  | incomplete => "incomplete format"
  | incompleteKey => "incomplete format key"
  | noFields => "format requires a mapping"
  | missingField name => Text.quote name
  | unknownPlace mark position =>
    "unsupported format character '" ++
      String.ofList [if '\x1f' ≤ mark && mark < '\x7f' then mark else '?'] ++ "' (0x" ++
      String.ofList (Nat.toDigits 16 mark.toNat) ++ ") at index " ++ toString position

/-- The arguments that are left. -/
structure Supply where
  /-- The fields that can be asked by name, if the arguments have names. -/
  fields : Option (List (String × Value))
  /-- The arguments that wait for a place. -/
  waiting : List Value

namespace Supply

/-- The supply of arguments at the start of a template. -/
def ofArguments (arguments : List Value) : Supply :=
  match arguments with
  | [.record (field :: fields)] => ⟨some (field :: fields), arguments⟩
  | _ => ⟨none, arguments⟩

/-- Take the next argument. -/
def next (supply : Supply) : Except TemplateError (Value × Supply) :=
  match supply.waiting with
  | [] => .error .tooFew
  | argument :: waiting => .ok (argument, { supply with waiting })

/-- Ask for a field by name. -/
def select (supply : Supply) (name : String) : Except TemplateError Supply :=
  match supply.fields with
  | none => .error .noFields
  | some fields =>
    match fields.lookup name with
    | none => .error (.missingField name)
    | some value => .ok { supply with waiting := [value] }

/-- Check that nothing is left over. -/
def finish (supply : Supply) : Except TemplateError Unit :=
  if supply.fields.isNone && !supply.waiting.isEmpty then .error .tooMany else .ok ()

end Supply

end BuildChronicle.Template
