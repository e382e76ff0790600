import RecordFix.Json.Token

/-!
# Reading JSON

`Json.parse?` reads a text that holds one JSON value. Arrays and objects may be nested `depthLimit` deep.
`Json.parseWanted?` keeps only some members of an object; the others have to be well formed, but may be nested deeper
and hold strings and numbers that have no value.
-/

namespace RecordFix.Json

/-- How deep arrays and objects may be nested. -/
def depthLimit : Nat := 127

mutual

/-- Reads a value that may nest `depth` deep; every call takes one of the `fuel`. -/
def readValue (depth : Nat) : Nat → List Token → Option (Json × List Token)
  | 0, _ => none
  | fuel + 1, ts =>
    match ts with
    | .null :: ts => some (.null, ts)
    | .bool b :: ts => some (.bool b, ts)
    | .number n :: ts => some (.number n, ts)
    | .string s :: ts => some (.string (String.ofList s), ts)
    | .openBracket :: .closeBracket :: ts => if depth = 0 then none else some (.array [], ts)
    | .openBracket :: ts =>
      if depth = 0 then none else (readItems (depth - 1) fuel ts).map fun (items, ts) => (.array items, ts)
    | .openBrace :: .closeBrace :: ts => if depth = 0 then none else some (.object [], ts)
    | .openBrace :: ts =>
      if depth = 0 then none else (readMembers (depth - 1) fuel ts).map fun (ms, ts) => (.object ms, ts)
    | _ => none

/-- Reads the items of an array up to its closing bracket. -/
def readItems (depth : Nat) : Nat → List Token → Option (List Json × List Token)
  | 0, _ => none
  | fuel + 1, ts =>
    match readValue depth fuel ts with
    | some (j, .comma :: ts) => (readItems depth fuel ts).map fun (js, ts) => (j :: js, ts)
    | some (j, .closeBracket :: ts) => some ([j], ts)
    | _ => none

/-- Reads the members of an object up to its closing brace. -/
def readMembers (depth : Nat) : Nat → List Token → Option (List (String × Json) × List Token)
  | 0, _ => none
  | fuel + 1, ts =>
    match ts with
    | .string k :: .colon :: ts =>
      match readValue depth fuel ts with
      | some (j, .comma :: ts) =>
        (readMembers depth fuel ts).map fun (ms, ts) => ((String.ofList k, j) :: ms, ts)
      | some (j, .closeBrace :: ts) => some ([(String.ofList k, j)], ts)
      | _ => none
    | _ => none

end

/-- Reads a text that holds one value and nothing else. -/
def parse? (text : String) : Option Json := do
  let ts ← tokens? text
  match readValue depthLimit (2 * ts.length + 1) ts with
  | some (j, []) => some j
  | _ => none

/-! ### Members that are wanted -/

/-- What may come next inside a value that is skipped. -/
inductive Expected where
  | value
  | valueOrEnd
  | key
  | keyOrEnd
  | colon
  | commaOrEnd

/-- Skips tokens up to the end of a value; `around` are the containers that are open, objects being `true`. -/
def skipValue (expected : Expected) (around : List Bool) : List Token → Option (List Token)
  | [] => none
  | t :: ts =>
    let ended (around : List Bool) : Option (List Token) :=
      if around.isEmpty then some ts else skipValue .commaOrEnd around ts
    match expected, t, around with
    | .value, .openBracket, _ | .valueOrEnd, .openBracket, _ => skipValue .valueOrEnd (false :: around) ts
    | .value, .openBrace, _ | .valueOrEnd, .openBrace, _ => skipValue .keyOrEnd (true :: around) ts
    | .valueOrEnd, .closeBracket, _ :: outside => ended outside
    | .keyOrEnd, .closeBrace, _ :: outside => ended outside
    | .commaOrEnd, .closeBracket, false :: outside => ended outside
    | .commaOrEnd, .closeBrace, true :: outside => ended outside
    | .commaOrEnd, .comma, false :: _ => skipValue .value around ts
    | .commaOrEnd, .comma, true :: _ => skipValue .key around ts
    | .key, .string _, _ | .key, .brokenString, _ | .keyOrEnd, .string _, _ | .keyOrEnd, .brokenString, _ =>
      skipValue .colon around ts
    | .colon, .colon, _ => skipValue .value around ts
    | .value, t, _ | .valueOrEnd, t, _ =>
      match t with
      | .null | .bool _ | .number _ | .string _ | .brokenString | .hugeNumber => ended around
      | _ => none
    | _, _, _ => none

/-- Reads the members of an object that are wanted up to its closing brace. -/
def readWanted (wanted : String → Bool) : Nat → List Token → Option (List (String × Json) × List Token)
  | 0, _ => none
  | fuel + 1, ts =>
    match ts with
    | .string k :: .colon :: ts =>
      let key := String.ofList k
      let read :=
        if wanted key then (readValue (depthLimit - 1) (2 * ts.length + 1) ts).map fun (j, ts) => ([(key, j)], ts)
        else (skipValue .value [] ts).map fun ts => ([], ts)
      match read with
      | some (ms, .comma :: ts) => (readWanted wanted fuel ts).map fun (rest, ts) => (ms ++ rest, ts)
      | some (ms, .closeBrace :: ts) => some (ms, ts)
      | _ => none
    | _ => none

/-- Reads a text that holds one value; if that is an object, only the members that are wanted are kept. -/
def parseWanted? (wanted : String → Bool) (text : String) : Option Json := do
  let ts ← tokens? text
  match ts with
  | .openBrace :: .closeBrace :: [] => some (.object [])
  | .openBrace :: ts =>
    match readWanted wanted (ts.length + 1) ts with
    | some (ms, []) => some (.object ms)
    | _ => none
  | _ => parse? text

end RecordFix.Json
