import Rehearsal.Job.Session

/-!
# Reading a journal

What a run did to the outside, each kind of it in the order in which it happened.
-/

namespace Rehearsal

namespace Journal

/-- The keys with which the resolver was called. -/
def calls (journal : List Event) : List LookupKey :=
  journal.filterMap fun e =>
    match e with
    | .called key => some key
    | _ => none

/-- The questions that were asked. -/
def questions (journal : List Event) : List Question :=
  journal.filterMap fun e =>
    match e with
    | .asked question => some question
    | _ => none

/-- The queries to single nameservers. -/
def queries (journal : List Event) : List (IpAddress × String × RecordType) :=
  (questions journal).filterMap fun question =>
    match question with
    | .direct server name type => some (server, name, type)
    | _ => none

/-- The requests, with the connections over which they were sent. -/
def requests (journal : List Event) : List (Connection × Request) :=
  (questions journal).filterMap fun question =>
    match question with
    | .exchange connection request => some (connection, request)
    | _ => none

/-- The log lines. -/
def lines (journal : List Event) : List LogLine :=
  journal.filterMap fun e =>
    match e with
    | .logged line => some line
    | _ => none

end Journal

end Rehearsal
