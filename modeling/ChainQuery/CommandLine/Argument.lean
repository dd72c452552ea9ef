import ChainQuery.Abi.Value
import ChainQuery.Failure
import ChainQuery.Text.LowerCase
import ChainQuery.Text.Numeral

/-!
# Arguments and sources on the command line

Turning the texts of options into values of parameter types (`coerce`), and collecting repeated
source options into one interface for each name (`groupSources`).
-/

namespace ChainQuery.CommandLine

/-- The truth value that a word stands for, whatever its case. -/
def truthOf? (text : List Char) : Option Bool :=
  match String.ofList (Text.lower text) with
  | "true" => some true
  | "false" => some false
  | _ => none

/-- Whether a character may stand between pairs of hexadecimal digits. -/
def isPairGap (c : Char) : Bool :=
  c == ' ' || (9 ≤ c.toNat && c.toNat ≤ 13)

/-- The bytes written by pairs of hexadecimal digits with blanks between the pairs. -/
def spacedHex? : List Char → Option Bytes
  | [] => some []
  | c :: rest =>
    if isPairGap c then spacedHex? rest
    else match rest with
      | [] => none
      | d :: more => do
        let high ← Text.hexValue? c
        let low ← Text.hexValue? d
        let bytes ← spacedHex? more
        return UInt8.ofNat (high * 16 + low) :: bytes

/-- The bytes that a text writes, with or without `0x` in front. -/
def bytesOf? (text : List Char) : Option Bytes :=
  match text with
  | '0' :: 'x' :: rest => spacedHex? rest
  | _ => spacedHex? text

/-- Whether a type starts with a word. -/
def startsWith (type : String) (word : String) : Bool :=
  word.toList.isPrefixOf type.toList

/-- The value that a text stands for where a type is wanted; any text is a value of the types that
have no notation of their own. -/
def valueOf? (type : String) (text : String) : Option Abi.Value :=
  if startsWith type "uint" || startsWith type "int" then
    (Text.integer? text.toList).map .int
  else if type = "bool" then (truthOf? text.toList).map .bool
  else if startsWith type "bytes" then (bytesOf? text.toList).map .bytes
  else some (.text text)

/-- How a parameter is called in messages: by its name or else by its type. -/
def label (param : Abi.Param) : String :=
  match param.name with
  | some name => if name = "" then param.type else name
  | none => param.type

/-- The value that a text gives to a parameter. Arrays and tuples cannot be given. -/
def coerce (param : Abi.Param) (text : String) : Except Failure Abi.Value :=
  if param.type.toList.contains '[' || startsWith param.type "tuple" then
    .error (.badArgument
      (label param ++ ": " ++ param.type ++ " arguments are not supported on the command line"))
  else match valueOf? param.type text with
    | some value => .ok value
    | none =>
      .error (.badArgument (label param ++ ": cannot read " ++
        String.ofList (Text.quote text.toList) ++ " as " ++ param.type))

/-- Texts for each of several parameters. -/
def coerceAll : List Abi.Param → List String → Except Failure (List Abi.Value)
  | param :: params, text :: texts => do
    let value ← coerce param text
    let values ← coerceAll params texts
    return value :: values
  | _, _ => .ok []

/-- A source option: a name, an address and a signature. -/
structure SourceOption where
  name : String
  address : String
  signature : String
deriving DecidableEq, Repr

/-- The options of one name: the address as it was first written, and the signatures in order. -/
structure SourceGroup where
  name : String
  address : String
  signatures : List String
deriving DecidableEq, Repr

/-- A text in lower case. -/
def lowered (text : String) : List Char :=
  Text.lower text.toList

/-- Add an option to the group of its name, which may be new; the addresses of a group must agree up
to case. -/
def addToGroup (option : SourceOption) : List SourceGroup → Except Failure (List SourceGroup)
  | [] => .ok [⟨option.name, option.address, [option.signature]⟩]
  | group :: rest =>
    if group.name = option.name then
      if lowered group.address = lowered option.address then
        .ok ({ group with signatures := group.signatures ++ [option.signature] } :: rest)
      else
        .error (.badArgument ("source '" ++ option.name ++ "' given two addresses: " ++
          group.address ++ ", " ++ option.address))
    else (addToGroup option rest).map (group :: ·)

/-- Add several options to groups, in order. -/
def groupInto (groups : List SourceGroup) : List SourceOption → Except Failure (List SourceGroup)
  | [] => .ok groups
  | option :: rest => do groupInto (← addToGroup option groups) rest

/-- One group for each name, in the order of first appearance. -/
def groupSources (options : List SourceOption) : Except Failure (List SourceGroup) :=
  groupInto [] options

end ChainQuery.CommandLine
