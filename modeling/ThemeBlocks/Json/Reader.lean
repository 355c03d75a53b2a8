import ThemeBlocks.Json.Scan

/-! Reading JSON text into values. At most 127 brackets may be open at a time. Members come out in the
order of their keys, the last of equal keys winning. A value that is only skipped is checked for its
form alone, with no limit on its brackets. -/

namespace ThemeBlocks.Json

open Text

/-- How many brackets may be open, counting the one that is refused. -/
def bracketLimit : Nat := 128

def enter (room : Nat) (source : Source) : Except Failure Nat :=
  if room ≤ 1 then fail (.next .tooDeep source) else .ok (room - 1)

/-- What stands before the next item of a list: `none` for the closing bracket, which stays. -/
def nextItem (first : Bool) (source : Source) : Except Failure (Option Source) :=
  match skipBlanks source with
  | [] => fail (.here .endInList [])
  | .char ']' :: _ => .ok none
  | .char ',' :: rest =>
    if first then .ok (some (.char ',' :: rest))
    else
      match skipBlanks rest with
      | [] => fail (.here .endInValue [])
      | .char ']' :: rest => fail (.next .trailingComma (.char ']' :: rest))
      | rest => .ok (some rest)
  | rest => if first then .ok (some rest) else fail (.next .expectedListEnd rest)

/-- What stands behind the opening quote of the next key: `none` for the closing brace, which stays. -/
def nextKey (first : Bool) (source : Source) : Except Failure (Option Source) :=
  match skipBlanks source with
  | [] => fail (.here .endInObject [])
  | .char '}' :: _ => .ok none
  | .char ',' :: rest =>
    if first then fail (.next .keyNotString (.char ',' :: rest))
    else
      match skipBlanks rest with
      | [] => fail (.here .endInValue [])
      | .char '"' :: rest => .ok (some rest)
      | .char '}' :: rest => fail (.next .trailingComma (.char '}' :: rest))
      | rest => fail (.next .keyNotString rest)
  | .char '"' :: rest =>
    if first then .ok (some rest) else fail (.next .expectedObjectEnd (.char '"' :: rest))
  | rest => fail (.next (if first then .keyNotString else .expectedObjectEnd) rest)

def afterColon (source : Source) : Except Failure Source :=
  match skipBlanks source with
  | [] => fail (.here .endInObject [])
  | .char ':' :: rest => .ok rest
  | rest => fail (.next .expectedColon rest)

mutual

def readValue : Nat → Nat → Source → Except Failure (Value × Source)
  | 0, _, source => fail (.here .endInValue source)
  | fuel + 1, room, source =>
    match skipBlanks source with
    | [] => fail (.here .endInValue [])
    | .char 'n' :: rest => do
      let rest ← scanWord ['u', 'l', 'l'] rest
      .ok (.null, rest)
    | .char 't' :: rest => do
      let rest ← scanWord ['r', 'u', 'e'] rest
      .ok (.bool true, rest)
    | .char 'f' :: rest => do
      let rest ← scanWord ['a', 'l', 's', 'e'] rest
      .ok (.bool false, rest)
    | .char '"' :: rest => do
      let (text, rest) ← scanString rest
      .ok (.string text, rest)
    | .char '[' :: rest => do
      let room ← enter room (.char '[' :: rest)
      let (items, rest) ← readItems fuel room true rest
      .ok (.array items, rest)
    | .char '{' :: rest => do
      let room ← enter room (.char '{' :: rest)
      let (members, rest) ← readMembers fuel room true rest
      .ok (.object (sortMembers members), rest)
    | symbol :: rest =>
      if symbol = .char '-' ∨ (digitOf? symbol).isSome then do
        let (number, rest) ← scanNumber (symbol :: rest)
        .ok (.number number, rest)
      else fail (.next .expectedValue (symbol :: rest))

def readItems : Nat → Nat → Bool → Source → Except Failure (List Value × Source)
  | 0, _, _, source => fail (.here .endInList source)
  | fuel + 1, room, first, source => do
    match ← nextItem first source with
    | none => .ok ([], (skipBlanks source).drop 1)
    | some rest =>
      let (item, rest) ← readValue fuel room rest
      let (items, rest) ← readItems fuel room false rest
      .ok (item :: items, rest)

/-- The members up to the closing brace, which is read too, as they stand. -/
def readMembers : Nat → Nat → Bool → Source → Except Failure (List (String × Value) × Source)
  | 0, _, _, source => fail (.here .endInObject source)
  | fuel + 1, room, first, source => do
    match ← nextKey first source with
    | none => .ok ([], (skipBlanks source).drop 1)
    | some rest =>
      let (key, rest) ← scanString rest
      let rest ← afterColon rest
      let (value, rest) ← readValue fuel room rest
      let (members, rest) ← readMembers fuel room false rest
      .ok ((key, value) :: members, rest)

end

def stepsFor (source : Source) : Nat :=
  2 * source.length + 2

def atEnd (source : Source) : Except Failure Unit :=
  match skipBlanks source with
  | [] => .ok ()
  | rest => fail (.next .trailingCharacters rest)

def readDocument (source : Source) : Except Failure Value := do
  let (value, rest) ← readValue (stepsFor source) bracketLimit source
  atEnd rest
  .ok value

def parse (text : String) : Except String Value :=
  let source := Source.ofText text
  match readDocument source with
  | .ok value => .ok value
  | .error failure => .error (failure.message source)

mutual

def skipValue : Nat → Source → Except Failure Source
  | 0, source => fail (.here .endInValue source)
  | fuel + 1, source =>
    match skipBlanks source with
    | [] => fail (.here .endInValue [])
    | .char 'n' :: rest => scanWord ['u', 'l', 'l'] rest
    | .char 't' :: rest => scanWord ['r', 'u', 'e'] rest
    | .char 'f' :: rest => scanWord ['a', 'l', 's', 'e'] rest
    | .char '"' :: rest => skipString rest
    | .char '-' :: rest => skipUnsigned rest
    | .char '[' :: rest => skipItems fuel true rest
    | .char '{' :: rest => skipMembers fuel true rest
    | symbol :: rest =>
      if (digitOf? symbol).isSome then skipUnsigned (symbol :: rest)
      else fail (.next .expectedValue (symbol :: rest))

/-- A comma here promises an item, so a bracket behind it is no value. -/
def skipItems : Nat → Bool → Source → Except Failure Source
  | 0, _, source => fail (.here .endInList source)
  | fuel + 1, first, source =>
    match skipBlanks source with
    | [] => fail (.here .endInList [])
    | .char ']' :: rest => .ok rest
    | symbol :: rest =>
      if first then do
        let rest ← skipValue fuel (symbol :: rest)
        skipItems fuel false rest
      else if symbol = .char ',' then do
        let rest ← skipValue fuel rest
        skipItems fuel false rest
      else fail (.next .expectedListEnd (symbol :: rest))

def skipMembers : Nat → Bool → Source → Except Failure Source
  | 0, _, source => fail (.here .endInObject source)
  | fuel + 1, first, source =>
    match skipBlanks source with
    | [] => fail (.here .endInObject [])
    | .char '}' :: rest => .ok rest
    | symbol :: rest =>
      if first then skipMember fuel (symbol :: rest)
      else if symbol = .char ',' then skipMember fuel (skipBlanks rest)
      else fail (.next .expectedObjectEnd (symbol :: rest))

def skipMember : Nat → Source → Except Failure Source
  | 0, source => fail (.here .endInObject source)
  | fuel + 1, source =>
    match source with
    | [] => fail (.here .endInObject [])
    | .char '"' :: rest => do
      let rest ← skipString rest
      let rest ← afterColon rest
      let rest ← skipValue fuel rest
      skipMembers fuel false rest
    | rest => fail (.next .keyNotString rest)

end

end ThemeBlocks.Json
