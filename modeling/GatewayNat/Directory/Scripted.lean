import GatewayNat.Directory.Basic

/-!
# Scripted directories

A script writes down the answers of a directory in advance.  Each look-up of a
network on a gateway takes the next answer of the network's list, and the last
answer repeats.  A network without a list has no interface, and a gateway
without an entry is not found.
-/

namespace GatewayNat

/-- An answer to the look-up of an interface. -/
inductive ScriptedAnswer where
  | none
  | interface (descriptor : Descriptor)
  | fails (outage : Outage)
  deriving DecidableEq, Repr

/-- The entry of a gateway: it cannot be reached, or its networks have answers. -/
inductive ScriptedGateway where
  | fails (outage : Outage)
  | answers (networks : Table Text (List ScriptedAnswer))
  deriving DecidableEq, Repr

/-- The answers of a directory, written down in advance. -/
abbrev Script := Table Text ScriptedGateway

/-- The result that an answer stands for. -/
def ScriptedAnswer.result : ScriptedAnswer → Except Failure (Option Descriptor)
  | .none => .ok Option.none
  | .interface descriptor => .ok (some descriptor)
  | .fails outage => .error (.outage outage)

/-- The answer at an index of a list whose last answer repeats. -/
def ScriptedAnswer.nth : List ScriptedAnswer → Nat → ScriptedAnswer
  | [], _ => .none
  | [last], _ => last
  | answer :: _, 0 => answer
  | _ :: rest, index + 1 => nth rest index

/-- The directory that a script describes. -/
def Script.toDirectory (script : Script) : Directory where
  gateway _ gateway :=
    match Table.find? script gateway with
    | some (.answers _) => .ok ()
    | some (.fails outage) => .error (.outage outage)
    | none => .error (.rejected (.gatewayNotFound gateway))
  interface past gateway network :=
    match Table.find? script gateway with
    | some (.answers networks) =>
      (ScriptedAnswer.nth ((networks.find? network).getD [])
        (past.count (.interface gateway network))).result
    | some (.fails outage) => .error (.outage outage)
    | none => .error (.rejected (.gatewayNotFound gateway))

end GatewayNat
