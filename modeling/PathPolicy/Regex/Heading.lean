import PathPolicy.Regex.Repeat
import PathPolicy.Text.Identifier

/-! What stands between an opening parenthesis and the body of its group. -/

namespace PathPolicy.Regex

namespace Reading

def flagOf (token : Option Token) : Reading Flag :=
  match token with
  | some (.char c) =>
    match Flag.ofLetter? c with
    | some f => return f
    | none => fail .badFlags
  | _ => fail .badFlags

/-- The flags that are turned on, and the sign after them. -/
def flagsOn (on : List Flag) (flag : Flag) : Nat → Reading (List Flag × Char)
  | 0 => fail .badFlags
  | fuel + 1 => do
    if flag == .locale then fail .badFlags
    let on := on ++ [flag]
    if flag.isAlphabet && on.any (fun f => f.isAlphabet && f != flag) then fail .badFlags
    match ← take with
    | some (.char ')') => return (on, ')')
    | some (.char '-') => return (on, '-')
    | some (.char ':') => return (on, ':')
    | token => flagsOn on (← flagOf token) fuel

/-- The flags that are turned off, up to the colon. -/
def flagsOff (off : List Flag) (flag : Flag) : Nat → Reading (List Flag)
  | 0 => fail .badFlags
  | fuel + 1 => do
    if flag.isAlphabet then fail .badFlags
    let off := off ++ [flag]
    match ← take with
    | some (.char ':') => return off
    | token => flagsOff off (← flagOf token) fuel

/-- Flags after `(?`: those for the whole expression, or for the group that follows. -/
def flags (first : Char) : Reading (Sum (List Flag) Scope) := do
  let fuel := (← get).rest.length + 2
  let (on, sign) ←
    match Flag.ofLetter? first with
    | some f => flagsOn [] f fuel
    | none => pure ([], '-')
  if sign = ')' then return .inl on
  if on.contains .template then fail .badFlags
  if sign = ':' then return .inr { on := on }
  let off ← flagsOff [] (← flagOf (← take)) fuel
  if off.contains .template || on.any off.contains then fail .badFlags
  return .inr { on := on, off := off }

/-- What an opening parenthesis brings: nothing, flags for the whole expression, or
a part. -/
inductive Opened where
  | nothing
  | globalFlags (on : List Flag)
  | part (p : Piece)

/-- How a group treats its body. -/
inductive GroupKind where
  | capturing (name : Option (List Char))
  | scoped (scope : Scope)
  | atomic
  | look (behind negated : Bool)
  | given (group : Nat)

/-- What stands after an opening parenthesis and a question mark, up to the body. -/
inductive Heading where
  | body (kind : GroupKind)
  | done (o : Opened)

def groupName (stop : Char) : Reading (List Char) := do
  let name ← takeName stop .badGroupName
  if !Text.isIdentifier name then fail .badGroupName
  return name

def namedGroup (name : List Char) : Reading Nat := do
  match (← get).names.lookup (String.ofList name) with
  | some group => return group
  | none => fail .unknownGroup

/-- The group that a condition asks about, by name or by number. -/
def conditionGroup : Reading Nat := do
  let name ← takeName ')' .badGroupName
  if Text.isIdentifier name then namedGroup name
  else
    match Number.readInteger 10 name with
    | .error _ => fail .badGroupName
    | .ok n =>
      if n ≤ 0 then fail .badGroupName
      let group := n.toNat
      if largestGroup ≤ group then fail .unknownGroup
      modify fun s => { s with conditions := s.conditions ++ [group] }
      return group

def skipComment : Nat → Reading Unit
  | 0 => fail .unterminatedComment
  | fuel + 1 => do
    match ← peek with
    | none => fail .unterminatedComment
    | some token =>
      advance
      if token == .char ')' then return
      skipComment fuel

def namedHeading : Reading Heading := do
  if ← accept '<' then return .body (.capturing (some (← groupName '>')))
  if ← accept '=' then
    let group ← namedGroup (← groupName ')')
    return .done (.part (.node (← reference group)))
  fail .unknownExtension

def lookHeading (c : Char) : Reading Heading := do
  if c = '=' then return .body (.look false false)
  if c = '!' then return .body (.look false true)
  match ← take with
  | some (.char '=') => return .body (.look true false)
  | some (.char '!') => return .body (.look true true)
  | _ => fail .unknownExtension

def heading (isStart : Bool) : Reading Heading := do
  if !(← accept '?') then return .body (.capturing none)
  match ← take with
  | none => fail .unexpectedEnd
  | some (.escaped _) => fail .unknownExtension
  | some (.char c) =>
    if c = 'P' then namedHeading
    else if c = ':' then return .body (.scoped {})
    else if c = '#' then
      skipComment ((← get).rest.length + 2)
      return .done .nothing
    else if c = '=' || c = '!' || c = '<' then lookHeading c
    else if c = '(' then
      let group ← conditionGroup
      checkLookbehind group
      return .body (.given group)
    else if c = '>' then return .body .atomic
    else if c = '-' || (Flag.ofLetter? c).isSome then
      match ← flags c with
      | .inr scope => return .body (.scoped scope)
      | .inl on =>
        if !isStart then fail .misplacedFlags
        modify fun s => { s with flags := s.flags.addAll on }
        return .done (.globalFlags on)
    else fail .unknownExtension

end Reading

end PathPolicy.Regex
