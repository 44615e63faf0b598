import PatchScript.Syntax

/-!
# The table of native functions

Six libraries of functions that scripts can import.  A function has one overload
for each number of arguments it takes, and an overload says which kind each
argument must have.
-/

namespace PatchScript

/-- What a native parameter accepts. -/
inductive ParamKind where
  | any
  | number
  /-- A number without a fractional part that fits 64 bits. -/
  | integer
  | string
  | array
  | object
  | function
deriving DecidableEq

def ParamKind.name : ParamKind → String
  | .any => "any value"
  | .number => "number"
  | .integer => "integer"
  | .string => "string"
  | .array => "array"
  | .object => "object"
  | .function => "function"

/-- Numeric functions. -/
inductive MathFunction where
  | abs | sqrt | pow | floor | ceil | round | trunc | sign | min | max | clamp
  | sin | cos | tan | log | exp
deriving DecidableEq

/-- Functions on texts. -/
inductive StringFunction where
  | length | upper | lower | trim | contains | startsWith | endsWith | indexOf
  | substring | replace | split | repeated | charAt | matchesPattern | replaceRegex
deriving DecidableEq

/-- Functions on arrays. -/
inductive ArrayFunction where
  | length | push | pop | insert | removeAt | indexOf | contains | slice | reverse
  | sort | map | filter | find | any | all | join | fill
deriving DecidableEq

/-- Functions on objects. -/
inductive ObjectFunction where
  | keys | values | has | remove | size | entries | merge
deriving DecidableEq

/-- Conversions from and to JSON text. -/
inductive JsonFunction where
  | stringify | pretty | parse
deriving DecidableEq

/-- Logging and assertions. -/
inductive DebugFunction where
  | log | assert
deriving DecidableEq

/-- A native function. -/
inductive Native where
  | math (function : MathFunction)
  | strings (function : StringFunction)
  | arrays (function : ArrayFunction)
  | objects (function : ObjectFunction)
  | json (function : JsonFunction)
  | debug (function : DebugFunction)
deriving DecidableEq

/-- The script name and the overloads of a function. -/
structure Signature where
  name : String
  overloads : List (List ParamKind)

namespace MathFunction

def table : List MathFunction :=
  [.abs, .sqrt, .pow, .floor, .ceil, .round, .trunc, .sign, .min, .max, .clamp,
    .sin, .cos, .tan, .log, .exp]

def signature : MathFunction → Signature
  | .abs => ⟨"abs", [[.number]]⟩
  | .sqrt => ⟨"sqrt", [[.number]]⟩
  | .pow => ⟨"pow", [[.number, .number]]⟩
  | .floor => ⟨"floor", [[.number]]⟩
  | .ceil => ⟨"ceil", [[.number]]⟩
  | .round => ⟨"round", [[.number]]⟩
  | .trunc => ⟨"trunc", [[.number]]⟩
  | .sign => ⟨"sign", [[.number]]⟩
  | .min => ⟨"min", [[.number, .number], [.array]]⟩
  | .max => ⟨"max", [[.number, .number], [.array]]⟩
  | .clamp => ⟨"clamp", [[.number, .number, .number]]⟩
  | .sin => ⟨"sin", [[.number]]⟩
  | .cos => ⟨"cos", [[.number]]⟩
  | .tan => ⟨"tan", [[.number]]⟩
  | .log => ⟨"log", [[.number]]⟩
  | .exp => ⟨"exp", [[.number]]⟩

end MathFunction

namespace StringFunction

def table : List StringFunction :=
  [.length, .upper, .lower, .trim, .contains, .startsWith, .endsWith, .indexOf,
    .substring, .replace, .split, .repeated, .charAt, .matchesPattern, .replaceRegex]

def signature : StringFunction → Signature
  | .length => ⟨"length", [[.string]]⟩
  | .upper => ⟨"upper", [[.string]]⟩
  | .lower => ⟨"lower", [[.string]]⟩
  | .trim => ⟨"trim", [[.string]]⟩
  | .contains => ⟨"contains", [[.string, .string]]⟩
  | .startsWith => ⟨"starts_with", [[.string, .string]]⟩
  | .endsWith => ⟨"ends_with", [[.string, .string]]⟩
  | .indexOf => ⟨"index_of", [[.string, .string]]⟩
  | .substring =>
    ⟨"substring", [[.string, .integer], [.string, .integer, .integer]]⟩
  | .replace => ⟨"replace", [[.string, .string, .string]]⟩
  | .split => ⟨"split", [[.string, .string]]⟩
  | .repeated => ⟨"repeat", [[.string, .integer]]⟩
  | .charAt => ⟨"char_at", [[.string, .integer]]⟩
  | .matchesPattern => ⟨"matches", [[.string, .string]]⟩
  | .replaceRegex => ⟨"replace_regex", [[.string, .string, .string]]⟩

end StringFunction

namespace ArrayFunction

def table : List ArrayFunction :=
  [.length, .push, .pop, .insert, .removeAt, .indexOf, .contains, .slice, .reverse,
    .sort, .map, .filter, .find, .any, .all, .join, .fill]

def signature : ArrayFunction → Signature
  | .length => ⟨"length", [[.array]]⟩
  | .push => ⟨"push", [[.array, .any]]⟩
  | .pop => ⟨"pop", [[.array]]⟩
  | .insert => ⟨"insert", [[.array, .integer, .any]]⟩
  | .removeAt => ⟨"remove_at", [[.array, .integer]]⟩
  | .indexOf => ⟨"index_of", [[.array, .any]]⟩
  | .contains => ⟨"contains", [[.array, .any]]⟩
  | .slice => ⟨"slice", [[.array, .integer], [.array, .integer, .integer]]⟩
  | .reverse => ⟨"reverse", [[.array]]⟩
  | .sort => ⟨"sort", [[.array], [.array, .function]]⟩
  | .map => ⟨"map", [[.array, .function]]⟩
  | .filter => ⟨"filter", [[.array, .function]]⟩
  | .find => ⟨"find", [[.array, .function]]⟩
  | .any => ⟨"any", [[.array, .function]]⟩
  | .all => ⟨"all", [[.array, .function]]⟩
  | .join => ⟨"join", [[.array, .string]]⟩
  | .fill => ⟨"fill", [[.array, .any]]⟩

end ArrayFunction

namespace ObjectFunction

def table : List ObjectFunction :=
  [.keys, .values, .has, .remove, .size, .entries, .merge]

def signature : ObjectFunction → Signature
  | .keys => ⟨"keys", [[.object]]⟩
  | .values => ⟨"values", [[.object]]⟩
  | .has => ⟨"has", [[.object, .string]]⟩
  | .remove => ⟨"remove", [[.object, .string]]⟩
  | .size => ⟨"size", [[.object]]⟩
  | .entries => ⟨"entries", [[.object]]⟩
  | .merge => ⟨"merge", [[.object, .object]]⟩

end ObjectFunction

namespace JsonFunction

def table : List JsonFunction :=
  [.stringify, .pretty, .parse]

def signature : JsonFunction → Signature
  | .stringify => ⟨"stringify", [[.any]]⟩
  | .pretty => ⟨"pretty", [[.any]]⟩
  | .parse => ⟨"parse", [[.string]]⟩

end JsonFunction

namespace DebugFunction

def table : List DebugFunction :=
  [.log, .assert]

def signature : DebugFunction → Signature
  | .log => ⟨"log", [[.any]]⟩
  | .assert => ⟨"assert", [[.any], [.any, .string]]⟩

end DebugFunction

namespace Native

def library : Native → String
  | .math _ => "math"
  | .strings _ => "strings"
  | .arrays _ => "arrays"
  | .objects _ => "objects"
  | .json _ => "json"
  | .debug _ => "debug"

def signature : Native → Signature
  | .math function => function.signature
  | .strings function => function.signature
  | .arrays function => function.signature
  | .objects function => function.signature
  | .json function => function.signature
  | .debug function => function.signature

def name (function : Native) : String :=
  function.signature.name

def overloads (function : Native) : List (List ParamKind) :=
  function.signature.overloads

/-- The name with its library. -/
def qualifiedName (function : Native) : String :=
  function.library ++ "." ++ function.name

/-- The overload that takes a number of arguments. -/
def overload? (function : Native) (count : Nat) : Option (List ParamKind) :=
  function.overloads.find? fun parameters => parameters.length == count

/-- The accepted numbers of arguments, such as `2 or 3`. -/
def arities (function : Native) : String :=
  String.intercalate " or "
    (function.overloads.map fun parameters => Decimal.naturalText parameters.length)

/-- A function with its accepted numbers of arguments. -/
def describe (function : Native) : String :=
  "NativeFunction(" ++ function.qualifiedName ++ "/" ++ function.arities ++ ")"

end Native

/-- A library of native functions. -/
structure NativeLibrary where
  name : String
  constants : List (String × Float)
  functions : List Native

namespace NativeLibrary

/-- The ratio of a circle's circumference to its diameter. -/
def pi : Float := 3.141592653589793

/-- The base of the natural logarithm. -/
def euler : Float := 2.718281828459045

/-- Numeric functions and constants. -/
def math : NativeLibrary :=
  { name := "math"
    constants := [("PI", pi), ("E", euler), ("INFINITY", 1.0 / 0.0)]
    functions := MathFunction.table.map Native.math }

/-- Functions on texts, also reachable as methods. -/
def strings : NativeLibrary :=
  { name := "strings", constants := [], functions := StringFunction.table.map Native.strings }

/-- Functions on arrays, also reachable as methods. -/
def arrays : NativeLibrary :=
  { name := "arrays", constants := [], functions := ArrayFunction.table.map Native.arrays }

def objects : NativeLibrary :=
  { name := "objects", constants := [], functions := ObjectFunction.table.map Native.objects }

def json : NativeLibrary :=
  { name := "json", constants := [], functions := JsonFunction.table.map Native.json }

def debug : NativeLibrary :=
  { name := "debug", constants := [], functions := DebugFunction.table.map Native.debug }

def all : List NativeLibrary :=
  [math, strings, arrays, objects, json, debug]

def ofName? (name : String) : Option NativeLibrary :=
  all.find? fun library => library.name == name

/-- The function of a library with a script name. -/
def function? (library : NativeLibrary) (name : String) : Option Native :=
  library.functions.find? fun function => function.name == name

end NativeLibrary
end PatchScript
