import Rehearsal.Dns.Resolver
import Rehearsal.Dns.Response

/-!
# From responses to records

A response may hold aliases on the way to the records that were asked for. They are followed in the
order in which they stand; where the response ends before the records do, the last alias is asked
for. Of a response the records of the asked type are kept, if they belong to the name or to the last
alias, and all aliases with them. Some names are never asked for, because everybody knows what they
stand for.
-/

namespace Rehearsal

namespace DomainName

/-- Do the names have the same labels, in capital or small letters? -/
def isSame (n m : DomainName) : Bool :=
  n.isAbsolute == m.isAbsolute &&
    n.labels.map (·.map Text.asciiLower) == m.labels.map (·.map Text.asciiLower)

/-- Does the name lie in the zone that these labels name? -/
def isWithin (name : DomainName) (zone : List String) : Bool :=
  (zone.map String.toList).isSuffixOf (name.labels.map (·.map Text.asciiLower))

end DomainName

namespace Resolution

/-- What is known of a name without asking. -/
inductive KnownName where
  /-- It stands for this machine. -/
  | loopback
  /-- It does not exist. -/
  | absent
  deriving DecidableEq, Repr

/-- The zones of names that are known without asking. -/
def knownZones : List (List String × KnownName) := [
  (["localhost"], .loopback),
  (["127", "in-addr", "arpa"], .loopback),
  ("1" :: List.replicate 31 "0" ++ ["ip6", "arpa"], .loopback),
  (["invalid"], .absent),
  (["onion"], .absent)]

/-- What is known of a name without asking, if anything. -/
def known? (name : DomainName) : Option KnownName :=
  (knownZones.find? fun zone => name.isWithin zone.1).map (·.2)

/-- How many seconds what is known may be kept. -/
def knownTtl : Nat := 86400

/-- The records of a known name. -/
def KnownName.records (known : KnownName) (name : DomainName) (type : RecordType) :
    Lookup.Resolution :=
  match known, type with
  | loopback, .a => .ok [.ofData name knownTtl (.a 0x7F000001#32)]
  | loopback, .aaaa => .ok [.ofData name knownTtl (.aaaa 1#128)]
  | loopback, _ => .error (.noRecords .noError)
  | absent, _ => .error (.noRecords .noSuchName)

/-- Follows one record, if it is an alias of the name that was reached. -/
def followRecord (reached : DomainName) (r : Record) : DomainName :=
  match r.data with
  | some (.cname target) => if r.owner.isSame reached then target else reached
  | _ => reached

/-- The last name that the aliases of an answer lead to. A question for aliases follows none. -/
def aliasEnd (name : DomainName) (type : RecordType) (answers : List Record) : DomainName :=
  if type = .cname then name else answers.foldl followRecord name

/-- Does the answer hold an alias of the name that is to be followed? -/
def hasAlias (name : DomainName) (type : RecordType) (answers : List Record) : Bool :=
  type ≠ .cname && answers.any fun r =>
    match r.data with
    | some (.cname _) => r.owner.isSame name
    | _ => false

/-- Is the record one that was asked for? -/
def isAsked (name last : DomainName) (type : RecordType) (r : Record) : Bool :=
  r.type = type && (r.owner.isSame last || r.owner.isSame name)

/-- How often the end of a chain of aliases is asked for in turn. -/
def maxQuestions : Nat := 8

/-- Asks for a name and then for the ends of the chains of aliases that come back, up to `n` more
times; `kept` are the aliases that were met before. -/
def follow (ask : DomainName → RecordType → Except Lookup.Failure DnsResponse) (type : RecordType) :
    Nat → List Record → DomainName → Lookup.Resolution
  | n, kept, name =>
    match known? name with
    | some known => known.records name type
    | none =>
      match ask name type with
      | .error failure => .error failure
      | .ok response =>
        if !response.isUsable then .error (.noRecords response.code)
        else
          let last := aliasEnd name type response.answers
          let isAsked := isAsked name last type
          let kept := kept ++ response.answers.filter fun r => isAsked r || r.type = .cname
          if response.answers.any isAsked then .ok kept
          else if hasAlias name type response.answers then
            match n with
            | n + 1 => follow ask type n kept last
            | 0 => .error (.noRecords response.code)
          else .error (.noRecords response.code)

/-- The records of a name. -/
def run (ask : DomainName → RecordType → Except Lookup.Failure DnsResponse) (name : DomainName)
    (type : RecordType) : Lookup.Resolution :=
  follow ask type maxQuestions [] name

end Resolution

end Rehearsal
