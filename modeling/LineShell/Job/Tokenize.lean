import LineShell.Job
import LineShell.Split

/-!
Reading a line as jobs. Words are the longest runs without space, tab, newline or carriage return;
a word `;` closes a job and a word `|` closes a task. Nothing is quoted or expanded.
-/

namespace LineShell

namespace Line

def isDelimiter (c : Char) : Bool := c = ' ' || c = '\t' || c = '\n' || c = '\r'

def jobSeparator : String := ";"

def taskSeparator : String := "|"

/-- The words of a text, in order. -/
def words (text : List Char) : List String :=
  ((pieces isDelimiter text).filter (!·.isEmpty)).map String.ofList

/-- The argument vectors of the tasks of one job. -/
def taskArgvs (words : List String) : List (List String) := pieces (· = taskSeparator) words

/-- The argument vectors of the tasks of every job. -/
def jobArgvs (words : List String) : List (List (List String)) :=
  (pieces (· = jobSeparator) words).map taskArgvs

/-- The jobs of a line: at least one, each with at least one task. -/
def tokenize (line : String) : List Job := (jobArgvs (words line.toList)).map Job.ofArgvs

end Line

end LineShell
