/-! The settings of a run: what is given on the command line, and the values of those that
are not. -/

namespace CodeRuns.Command

structure Given where
  input : Option String
  output : Option String
  version : Option String
  logFilter : Option String
  deriving DecidableEq

structure Options where
  input : String
  output : String
  version : Option String
  logFilter : String
  deriving DecidableEq

def Options.ofGiven (g : Given) : Options where
  input := g.input.getD "./data/ucd/UnicodeData.txt"
  output := g.output.getD "./data/classification.rs.txt"
  version := g.version
  logFilter := g.logFilter.getD "info"

end CodeRuns.Command
