-- A channel to a host without octets: it keeps the responses that it takes, and
-- refuses some of them.
import StructuredSql.Host

namespace StructuredSql

structure Sent where
  /-- The numbers of the sends that are refused, the first one being zero. -/
  refused : List Nat
  /-- The longest response in octets, if there is a limit. -/
  cap : Option Nat
  /-- How many were sent, refused ones with them. -/
  count : Nat
  responses : List Response

namespace Sent

def empty (refused : List Nat) (cap : Option Nat) : Sent := ⟨refused, cap, 0, []⟩

/-- Why a response is not taken, if it is not. -/
def refusal? (s : Sent) (r : Response) : Option CallError :=
  if s.refused.contains s.count then some (.transport "send refused")
  else match s.cap with
    | none => none
    | some cap =>
      if cap < r.encode.length then some (.transport s!"frame exceeds the {cap} byte limit")
      else none

def send (r : Response) (s : Sent) : Except CallError Unit × Sent :=
  match s.refusal? r with
  | some e => (.error e, { s with count := s.count + 1 })
  | none => (.ok (), { s with count := s.count + 1, responses := s.responses ++ [r] })

end Sent

def Outlet.scripted : Outlet Sent := ⟨Sent.send⟩

end StructuredSql
