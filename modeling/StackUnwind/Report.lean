import StackUnwind.Episode.Session

/-!
# Fatal reports

The text that is left behind when a fault ends the program.
-/
namespace StackUnwind.Report

def sessionLine (session : Session) : String :=
  s!"  session: active={session.active} reraise={session.reraise} " ++
    s!"pending_frame={session.pending?.isSome} traceback_entries={session.traceback.length}\n"

def regionLine (region : CodeRegion) : String :=
  "    " ++ Text.addressRange region.start region.stop ++ " " ++ region.tier.text ++
    s!" fn={region.functionId}\n"

def regionLines (table : RegionTable) : String :=
  s!"  code regions: {table.regions.length}\n" ++ String.join (table.regions.map regionLine)

/-- The report of a fault, with the session and the code where they are known. -/
def text (fault : Fault) (session? : Option Session) (regions? : Option RegionTable) : String :=
  "fatal unwinder error: " ++ fault.message ++ "\n" ++
    (session?.map sessionLine).getD "" ++ (regions?.map regionLines).getD ""

end StackUnwind.Report
