/-!
# Fixes

A fix is a list of expressions that run in order against a record: calls of methods, tests with the blocks that they
guard, and blocks that a bind runs in a narrowed scope.
-/

namespace RecordFix

/-- Named options; a name occurs once. -/
abbrev Options := List (String × String)

/-- Writes an option over the one of its name, or at the end. -/
def Options.put (key value : String) : Options → Options
  | [] => [(key, value)]
  | (k, v) :: rest => if k == key then (k, value) :: rest else (k, v) :: Options.put key value rest

/-- A conditional with its parameters. -/
structure Condition where
  name : String
  params : List String
  deriving DecidableEq, Repr

inductive Expression where
  | call (name : String) (params : List String) (options : Options)
  | ifThen (condition : Condition) (body : List Expression) (branches : List (Condition × List Expression))
      (otherwise : Option (List Expression))
  | unlessThen (condition : Condition) (body : List Expression)
  | doBlock (name : String) (params : List String) (options : Options) (body : List Expression)
  deriving Inhabited

structure Fix where
  expressions : List Expression
  deriving Inhabited

namespace Expression

/-- Adds an option to a call or a block; a test has none. -/
def withOption (key value : String) : Expression → Expression
  | call name params options => call name params (options.put key value)
  | doBlock name params options body => doBlock name params (options.put key value) body
  | e => e

/-- Adds a branch to a test. -/
def elseIf (condition : Condition) (block : List Expression) : Expression → Expression
  | ifThen c body branches otherwise => ifThen c body (branches ++ [(condition, block)]) otherwise
  | e => e

/-- Sets the block that a test runs if no condition holds. -/
def orElse (block : List Expression) : Expression → Expression
  | ifThen c body branches _ => ifThen c body branches (some block)
  | e => e

def name : Expression → String
  | call name .. => name
  | ifThen c .. => c.name
  | unlessThen c _ => c.name
  | doBlock name .. => name

end Expression

namespace Fix

/-- A small cleanup of catalogue records that shows every kind of expression. -/
def sample : Fix where
  expressions := [
    .call "move_field" ["author", "creator.name"] [],
    .call "trim" ["title"] [],
    .call "split_field" ["subjects", ";"] [],
    .call "lookup" ["language"] [("en", "English"), ("fr", "French"), ("__default", "Unknown")],
    .ifThen ⟨"any_match", ["year", "1[0-9]\x7b3\x7d"]⟩ [.call "add_field" ["era", "historic"] []]
      [(⟨"exists", ["year"]⟩, [.call "add_field" ["era", "modern"] []])]
      (some [.call "add_field" ["era", "unknown"] []]),
    .doBlock "list" [] [("path", "subjects"), ("var", "$i")] [.call "capitalize" ["$i"] []],
    .unlessThen ⟨"exists", ["title"]⟩ [.call "reject" [] []],
    .call "vacuum" [] []]

end Fix

end RecordFix
