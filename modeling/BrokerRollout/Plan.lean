import BrokerRollout.Exec.Request
import BrokerRollout.Resource

/-!
# Plans

A plan is what a run submits, and what it expects to see inside each worker afterwards.
-/

namespace BrokerRollout

/-- The command that lists the queues of a broker. -/
structure QueueStat where
  user : String
  password : String
  cliPath : String := "amq-broker/bin/artemis"
  port : Nat := 61616
deriving DecidableEq

/-- The command's arguments for the broker of a worker, which is reached by the worker's name. -/
def QueueStat.argv (q : QueueStat) (worker : String) : List String :=
  [q.cliPath, "queue", "stat", "--user", q.user, "--password", q.password,
    "--url", "tcp://" ++ worker ++ ":" ++ toString q.port]

/-- Everything a run submits, and the command it runs in each worker. -/
structure Plan where
  cluster : Cluster
  security : Option Security
  addresses : List Address
  command : QueueStat
deriving DecidableEq

namespace Plan

/-- A queue's name is what a worker's output has to show for it. -/
def markers (p : Plan) : List String := p.addresses.map (·.queueName)

/-- The resources in the order in which they are submitted. -/
def resources (p : Plan) : List Resource :=
  .cluster p.cluster :: p.security.toList.map .security ++ p.addresses.map .address

/-- The first fault of resources that follow others with the refs `seen`. -/
def firstFault (seen : List Ref) : List Resource → Except SpecError Unit
  | [] => .ok ()
  | r :: rest =>
    match r.validate with
    | .error e => .error e
    | .ok () =>
      if r.ref ∈ seen then .error (.duplicateName r.ref.kind r.ref.name)
      else firstFault (r.ref :: seen) rest

/-- Every resource is valid, and no two are the same. -/
def validate (p : Plan) : Except SpecError Unit := firstFault [] p.resources

/-- The request that checks the worker of a given ordinal. -/
def workerRequest (p : Plan) (ordinal : Nat) : Exec.Request :=
  let worker := p.cluster.workerName ordinal
  { worker
    ns := p.cluster.ns
    container := p.cluster.containerName
    argv := p.command.argv worker }

/-! ### The address rollout -/

/-- The address of number `i` of the address rollout. -/
def rolloutAddress (ns : String) (i : Nat) : Address where
  name := "ex-aaoaddress" ++ toString i
  ns := ns
  addressName := "myAddress" ++ toString i
  queueName := "myQueue" ++ toString i
  routing := .multicast
  autoDelete := true

/-- The security resource of the address rollout: one user, known from one login module. -/
def rolloutSecurity (ns : String) : Security where
  name := "ex-proper"
  ns := ns
  modules := [{
    name := "prop-module"
    users := [{ name := "morty", password := some "geezrick", roles := ["admin", "random"] }] }]
  domain := {
    name := "activemq"
    references := [{ name := "prop-module", flag := "sufficient" }] }

/-- Five brokers with a security domain, and five multicast addresses with a queue each. -/
def addressRollout (ns : String) : Plan where
  cluster := Cluster.withReadiness { name := "ex-aao-broker", ns, replicas := 5 } 1 5
  security := some (rolloutSecurity ns)
  addresses := (List.range 5).map (rolloutAddress ns)
  command := { user := "morty", password := "geezrick" }

end Plan

end BrokerRollout
