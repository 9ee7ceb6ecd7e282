import Rehearsal.Script.Nameserver
import Rehearsal.Script.Web

/-!
# A whole script

All that a rehearsal is played against. Random numbers come out as zero.
-/

namespace Rehearsal

/-- All that answers in a rehearsal. -/
structure Script where
  /-- What the resolver answers. -/
  lookups : List Script.LookupEntry
  /-- What the nameservers answer. -/
  nameservers : List Script.ServerEntry
  /-- What is reached over the web. -/
  network : Script.Network
  /-- The addresses that the system knows for hosts. -/
  hosts : String → List IpAddress

namespace Script

/-- The script as peers, who always answer a question in the same way. -/
def peers (script : Script) : Peers where
  lookup _ key := Script.lookup script.lookups key
  answer _ question :=
    match question with
    | .direct server name type => Script.direct script.nameservers server name type
    | .exchange connection request => .now (script.network.exchange connection request)
    | .addresses host => .now (script.hosts host)
    | .draw _ => .now 0

/-- The peers of a machine without a network. Every lookup and every query fails, with `seconds` as
the ceiling of a lookup, and no connection comes about. -/
def unplugged (seconds : Nat) : Peers where
  lookup _ key :=
    .now (Lookup.run seconds none (Resolution.run (NameSystem.cut.ask true)) key.name key.type).1
  answer _ question :=
    match question with
    | .direct server name type =>
      .now (Direct.run ⟨server, 53⟩ seconds NameSystem.cut.reply name type)
    | .exchange connection request =>
      .now (Network.exchange ⟨false, false, []⟩ connection request)
    | .addresses _ => .now []
    | .draw _ => .now 0

end Script

end Rehearsal
