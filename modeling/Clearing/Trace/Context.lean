import Clearing.Text.Ascii
import Clearing.Text.Blank
import Clearing.Text.Split
/-!
Trace contexts.  A context names the trace that a request belongs to and the
span within it.  Its text form is four groups of lower-case hexadecimal digits
with hyphens between them: version, trace, span and flags.
-/

namespace Clearing

/-- The number of a span, which is never zero. -/
structure Span where
  number : Nat
  positive : 0 < number
  bounded : number < 2 ^ 64
deriving DecidableEq

/-- The number of a trace, which is never zero. -/
structure TraceId where
  number : Nat
  positive : 0 < number
  bounded : number < 2 ^ 128
deriving DecidableEq

structure TraceContext where
  trace : TraceId
  span : Span
  flags : Nat
  flags_lt : flags < 2 ^ 8
deriving DecidableEq

/-- The span of a number, if it is one. -/
def Span.ofNumber? (number : Nat) : Option Span :=
  if valid : 0 < number ∧ number < 2 ^ 64 then
    some
      { number
        positive := valid.1
        bounded := valid.2 }
  else
    none

/-- The trace of a number, if it is one. -/
def TraceId.ofNumber? (number : Nat) : Option TraceId :=
  if valid : 0 < number ∧ number < 2 ^ 128 then
    some
      { number
        positive := valid.1
        bounded := valid.2 }
  else
    none

def TraceId.toText (trace : TraceId) : String :=
  String.ofList (Text.hexText 32 trace.number)

def Span.toText (span : Span) : String :=
  String.ofList (Text.hexText 16 span.number)

namespace TraceContext

open Text

/-- The lowest flag says that the trace is recorded. -/
def isSampled (context : TraceContext) : Bool :=
  context.flags % 2 == 1

/-- The first span of a new trace, which is recorded. -/
def root (trace : TraceId) (span : Span) : TraceContext where
  trace := trace
  span := span
  flags := 1
  flags_lt := by decide

/-- The same trace and flags with another span. -/
def child (context : TraceContext) (span : Span) : TraceContext :=
  { context with span := span }

/-- A group of the given number of lower-case hexadecimal digits. -/
def isGroup (width : Nat) (characters : List Char) : Bool :=
  characters.length == width && characters.all isLowerHex

/--
Read the groups of a context.  Version `00` has four of them, later versions
may have more, and version `ff` does not exist.
-/
def ofGroups? : List (List Char) → Option TraceContext
  | version :: trace :: span :: flags :: others => do
      if isGroup 2 version && isGroup 32 trace && isGroup 16 span &&
          isGroup 2 flags && version != ['f', 'f'] &&
          (version != ['0', '0'] || others.isEmpty) then
        let trace ← TraceId.ofNumber? (hexNumber trace)
        let span ← Span.ofNumber? (hexNumber span)
        if bound : hexNumber flags < 2 ^ 8 then
          some
            { trace, span
              flags := hexNumber flags
              flags_lt := bound }
        else
          none
      else
        none
  | _ => none

def parseCharacters (characters : List Char) : Option TraceContext :=
  ofGroups? (pieces '-' (trimmed characters))

/-- Read a context, with white space around it or not. -/
def parse (text : String) : Option TraceContext :=
  parseCharacters text.toList

def toCharacters (context : TraceContext) : List Char :=
  ['0', '0', '-'] ++ hexText 32 context.trace.number ++ '-' ::
    hexText 16 context.span.number ++ '-' :: hexText 2 context.flags

def toText (context : TraceContext) : String :=
  String.ofList context.toCharacters

end TraceContext

end Clearing
