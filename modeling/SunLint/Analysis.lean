import SunLint.Dictionary.Builtin
import SunLint.Parser.Program
import SunLint.Report.Finding
import SunLint.Token.Stream

/-!
# Analysis

An analyzer finds the errors of a text. What is wrong with the text is data; only
if the analyzer itself breaks down is there a fault. The standard analyzer reads
the tokens and parses them, and never breaks down on any text, but those who use
an analyzer do not rely on that.
-/

namespace SunLint

/-- Why a text could not be analyzed. -/
inductive Fault
  | stream (fault : StreamFault)
  | failure (reason : String)
  /-- The analyzer broke off, with a last message or without one. -/
  | crash (message : Option String)
deriving DecidableEq, Repr

/-- The wording of the fault. -/
def Fault.message : Fault → String
  | .stream fault => fault.message
  | .failure reason => "front end failure: " ++ reason
  | .crash message => message.getD "unknown panic"

/-- What finds the errors of a text, and the dictionary that it uses. -/
structure Analyzer where
  analyze : String → Except Fault Errors
  dictionary : Dictionary

/-- The errors of the text, found with a dictionary under certain settings. -/
def analyze (dictionary : Dictionary) (settings : Settings) (source : String) :
    Except Fault Errors :=
  let stream := tokenize source
  match parse stream.tokens (some source) dictionary settings with
  | .ok output => .ok ⟨stream.errors, output.errors⟩
  | .error fault => .error (.stream fault)

/-- The analyzer that reads and parses the text. -/
def Analyzer.standard (settings : Settings) (dictionary : Dictionary := .builtin) : Analyzer where
  analyze := SunLint.analyze dictionary settings
  dictionary := dictionary

end SunLint
