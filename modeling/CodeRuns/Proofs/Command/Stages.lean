import CodeRuns.Command.Arguments
import CodeRuns.Proofs.Disk.Replacement
import CodeRuns.Proofs.Listing.RoundTrip
import CodeRuns.Proofs.RunTable.BuildFaults
import CodeRuns.Proofs.RunTable.Lookup
import CodeRuns.Proofs.Telemetry.Attempts
import CodeRuns.Proofs.UnicodeData.Reading

/-! The stages of a run: the filter of the log, the input, its records, the table, the output.
Each needs what the one before it gave, and the first that fails is reported and leaves the disk
as it was. A run that comes through all of them puts the listing of its table in the place of the
output and changes nothing else. How arguments and filters are read plays no part in this. -/

namespace CodeRuns.Command

namespace Given

variable (g : Given)

end Given

def alone (message : String) : List String := ["Error: " ++ message]

variable {F : Type}

section Stages

variable (language : FilterLanguage F) (environment : Option (List UInt8)) (g : Given) (d : Disk)

end Stages

variable {language : FilterLanguage F} {environment : Option (List UInt8)} {g : Given} {d : Disk}
  {t : RunTable} {place : Location} {f : Failure} {report : List String} {w : World}

section Table

def made (d : Disk) (input : String) : Except Failure RunTable :=
  (tableOf input (UnicodeData.load input (d.readText input))).1

end Table

namespace World

end World

section Run

variable {o : Options}

end Run

/-! Under a set filter a run is the building of a listing, with the log of that filter. -/

def occupied : Disk := Disk.empty.install "data.txt" (.file (Text.bytes UnicodeData.sample))

end CodeRuns.Command
