/-
  DeviceMail — from arguments to options and values.

  Arguments are read from left to right.  An option that takes a value is
  *pending* until it has got one; an option that takes any number of them stays
  pending until the next option begins.

  * `Item` is an option or a value of one;
  * `Item.ofArgument` reads an argument, knowing which option is pending, and
    says which one is pending after it;
  * `Item.ofArguments` reads all arguments;
  * `Stop` lists why reading a command line may end before that.
-/
import DeviceMail.CommandLine.OptionName
import DeviceMail.CommandLine.Value

namespace DeviceMail

/-- Why reading a command line ends without a draft. -/
inductive Stop where
  /-- The help text is asked for. -/
  | help
  /-- The version is asked for. -/
  | version
  /-- An argument is no option and belongs to none. -/
  | unknownArgument
  /-- An option that takes a value has none. -/
  | emptyValue (name : OptionName)
  /-- The value of an option is refused. -/
  | invalidValue (name : OptionName) (fault : ValueFault)
  /-- An option is given twice. -/
  | repeated (name : OptionName)
  deriving DecidableEq, Repr

/-- What an argument contributes to a draft. -/
inductive Item where
  /-- An option is given. -/
  | given (name : OptionName)
  /-- An option has a value. -/
  | value (name : OptionName) (text : String)
  deriving DecidableEq, Repr

namespace Item

/-! ## Options -/

/-- A value in the same argument as its option, without the equals signs that
    stand before it. -/
def attachedText (value : List Char) : String := .ofList (value.dropWhile (· = '='))

/-- An option that is spelled out, its dashes taken off.  The spelling ends at
    the first equals sign.  A value after that is the only one; a flag has no
    use for it. -/
def ofSpelling (body : List Char) : Except Stop (List Item × Option OptionName) :=
  let spelling := String.ofList (body.takeWhile (· ≠ '='))
  let after := body.dropWhile (· ≠ '=')
  if spelling = "help" then .error .help
  else if spelling = "version" then .error .version
  else
    match OptionName.all.find? (·.long = spelling) with
    | none => .error .unknownArgument
    | some name =>
      if name.takesValue = false then .ok ([.given name], none)
      else if after = [] then .ok ([.given name], some name)
      else .ok ([.given name, .value name (attachedText after)], none)

/-- The option that takes further values when `name` has got one. -/
def pendingAfter (name : OptionName) : Option OptionName :=
  if name.repeats then some name else none

/-- An option by its letter, the dash taken off.  All after the letter is a
    value, and the only one if an equals sign stands before it. -/
def ofLetter : List Char → Except Stop (List Item × Option OptionName)
  | [] => .error .unknownArgument
  | letter :: after =>
    if letter = 'h' then .error .help
    else if letter = 'V' then .error .version
    else
      match OptionName.all.find? (·.letter = some letter) with
      | none => .error .unknownArgument
      | some name =>
        if after = [] then .ok ([.given name], some name)
        else
          .ok ([.given name, .value name (attachedText after)],
            if after.head? = some '=' then none else pendingAfter name)

/-- An option.  Two dashes announce that it is spelled out. -/
def ofOption (argument : List Char) : Except Stop (List Item × Option OptionName) :=
  let body := argument.dropWhile (· = '-')
  if ['-', '-'].isPrefixOf argument then ofSpelling body else ofLetter body

/-! ## Arguments -/

/-- Whether an argument looks like an option.  A dash alone does not. -/
def looksLikeOption (argument : List Char) : Bool :=
  argument.head? == some '-' && argument != ['-']

/-- Whether a pending option takes any argument at all. -/
def claimsAll : Option OptionName → Bool
  | some name => name.takesDashes
  | none => false

/-- The items of an argument, and the option that is pending after it. -/
def ofArgument (pending : Option OptionName) (argument : String) :
    Except Stop (List Item × Option OptionName) :=
  if looksLikeOption argument.toList && !claimsAll pending then ofOption argument.toList
  else
    match pending with
    | some name => .ok ([.value name argument], pendingAfter name)
    | none => .error .unknownArgument

/-- The items of all arguments, and the option that is pending at the end.  Two
    dashes alone end the options, and nothing may come after them. -/
def ofArguments (pending : Option OptionName) :
    List String → Except Stop (List Item × Option OptionName)
  | [] => .ok ([], pending)
  | argument :: rest =>
    if argument = "--" ∧ claimsAll pending = false then
      if rest = [] then .ok ([], pending) else .error .unknownArgument
    else
      match ofArgument pending argument with
      | .error stop => .error stop
      | .ok (items, pending) =>
        match ofArguments pending rest with
        | .error stop => .error stop
        | .ok (others, pending) => .ok (items ++ others, pending)

example : ofArguments none ["--text=", "-Pa=1", "b=2", "--expires-in-ms", "-5"] =
    .ok ([.given .text, .value .text "", .given .property, .value .property "a=1",
      .value .property "b=2", .given .expiresIn, .value .expiresIn "-5"], none) := by cbv
example : ofArguments none ["-P=a=1", "b=2"] = .error .unknownArgument := by cbv

/-! ## Looking through items -/

/-- How often an option is given. -/
def timesGiven (items : List Item) (name : OptionName) : Nat := items.count (.given name)

/-- The value that an item gives to an option. -/
def valueOf? (name : OptionName) : Item → Option String
  | .given _ => none
  | .value other text => if other = name then some text else none

/-- The values of an option, in order. -/
def valuesOf (items : List Item) (name : OptionName) : List String :=
  items.filterMap (valueOf? name)

end Item

end DeviceMail
