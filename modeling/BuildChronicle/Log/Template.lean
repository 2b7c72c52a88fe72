import BuildChronicle.Log.Template.Directive

/-!
# Message templates

A message may have places for arguments, each marked by a percent sign. There have to be as
many arguments as places. A message without any arguments is not a template: its percent
signs stand for themselves.
-/

namespace BuildChronicle.Template

/-- Leave out the given number of characters and fill the places after them. The length is
that of the whole template. -/
def fillFrom (length : Nat) : Nat → Supply → List Char → Except TemplateError (List Char)
  | _, supply, [] => supply.finish.map fun () => []
  | skip + 1, supply, _ :: rest => fillFrom length skip supply rest
  | 0, supply, c :: rest =>
    if c = '%' then do
      let (shown, supply, after) ← readPlace length supply rest
      return shown.toList ++ (← fillFrom length (rest.length - after.length) supply rest)
    else do return c :: (← fillFrom length 0 supply rest)

/-- The message of a template with its arguments. -/
def fill (template : String) (arguments : List Value) : Except TemplateError String :=
  if arguments.isEmpty then .ok template
  else
    (fillFrom template.length 0 (Supply.ofArguments arguments) template.toList).map String.ofList

end BuildChronicle.Template
