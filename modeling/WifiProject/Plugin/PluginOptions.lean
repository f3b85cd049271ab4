import Mathlib.Data.List.Perm.Basic
import WifiProject.Lib.LinkedMap

/-!
`PluginOptions`: a hash map of options with the id of the plugin. The order in
which a hash map lists its entries is not specified, so it is a parameter.
-/

namespace WifiProject.Plugin

open Lib

abbrev Options := LinkedMap String (Option String)

/-- The iteration order of the hash map with these entries. -/
structure HashOrder where
  iterate : List (String × Option String) → List (String × Option String)
  perm : ∀ entries, (iterate entries).Perm entries

/-- The order of insertion. -/
def HashOrder.insertion : HashOrder := ⟨id, fun _ => List.Perm.refl _⟩

structure PluginOptions where
  id : String := ""
  options : Options := LinkedMap.empty
  deriving DecidableEq

/-- `Char.isISOControl()`. -/
def isISOControl (c : Char) : Bool :=
  c.toNat ≤ 0x1F || (0x7F ≤ c.toNat && c.toNat ≤ 0x9F)

namespace PluginOptions

/-- The state of the parser between two characters; `current` is in reverse. -/
structure Parser where
  plugin : PluginOptions := {}
  parseId : Bool
  current : List Char := []
  key : Option String := none
  escaped : Bool := false

def Parser.take (parser : Parser) : String := String.ofList parser.current.reverse

/-- The end of an entry. -/
def Parser.semicolon (parser : Parser) : Parser :=
  let plugin := match parser.key with
    | some key =>
        { parser.plugin with options := parser.plugin.options.put key (some parser.take) }
    | none =>
        if parser.current.isEmpty then parser.plugin
        else if parser.parseId then { parser.plugin with id := parser.take }
        else { parser.plugin with options := parser.plugin.options.put parser.take none }
  { parser with plugin := plugin, parseId := false, current := [], key := none }

/-- One character. A backslash takes the next token literally; of a longer
token the other characters are literal anyway. -/
def Parser.step (parser : Parser) (c : Char) : Parser :=
  if parser.escaped then { parser with current := c :: parser.current, escaped := false }
  else if c = '\\' then { parser with escaped := true }
  else if c = '=' ∧ parser.key = none then
    { parser with key := some parser.take, current := [] }
  else if c = ';' then parser.semicolon
  else { parser with current := c :: parser.current }

/-- The private constructor. -/
def new (options : Option String) (parseId : Bool) : Except String PluginOptions :=
  match options with
  | none => .ok {}
  | some options =>
      if options.isEmpty then .ok {}
      else if options.toList.any isISOControl then .error "No control characters allowed."
      else .ok ((options.toList ++ [';']).foldl Parser.step { parseId }).plugin

/-- `PluginOptions(id, options)`. -/
def ofId (id : String) (options : Option String) : Except String PluginOptions :=
  (new options false).map fun plugin => { plugin with id := id }

def escape (c : Char) : List Char :=
  if c = '\\' ∨ c = '=' ∨ c = ';' then ['\\', c] else [c]

def append (result : List Char) (str : String) : List Char := result ++ str.toList.flatMap escape

def appendEntry (result : List Char) (entry : String × Option String) : List Char :=
  let result := if result.isEmpty then result else result ++ [';']
  let result := append result entry.1
  match entry.2 with
  | none => result
  | some value => append (result ++ ['=']) value

def toString (order : HashOrder) (trimId : Bool) (plugin : PluginOptions) : String :=
  let entries := order.iterate plugin.options.entries
  if trimId then String.ofList (entries.foldl appendEntry [])
  else if plugin.id.isEmpty then ""
  else String.ofList (entries.foldl appendEntry (append [] plugin.id))

def equals (plugin other : PluginOptions) : Bool :=
  plugin.options.equals other.options && plugin.id = other.id

end PluginOptions

end WifiProject.Plugin
