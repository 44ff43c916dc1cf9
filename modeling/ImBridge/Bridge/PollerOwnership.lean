import ImBridge.Domain.St

/-!
# Ownership of a bot by a runtime

A runtime that polls a bot holds a guard: the bot, the epoch of its ownership, and an identity that
is drawn anew whenever the poller is started. Its fence is what writes are made under, as long as
the runtime is running.

## Main definitions

* `PollerOwnershipGuard`, `PollerLifecycle`: the guard of a runtime, and how far the runtime is
* `PollerOwnershipGuard.fenceIn`: the fence of the guard
-/

namespace ImBridge

inductive PollerOwner
  | legacyPlugin
  | rustBridge
  deriving DecidableEq, Repr

def PollerOwner.asStr : PollerOwner → String
  | legacyPlugin => "legacy_plugin"
  | rustBridge => "rust_bridge"

inductive PollerLifecycle
  | starting
  | running
  | draining
  | stopped
  deriving DecidableEq, Repr

structure PollerOwnershipGuard where
  numericBotId : ℤ
  owner : PollerOwner
  epoch : ℕ
  internalBotId : String
  runtimeInstanceId : String
  deriving DecidableEq

/-- The fence of the guard, when its runtime is so far. -/
def PollerOwnershipGuard.fenceIn (self : PollerOwnershipGuard) (lifecycle : PollerLifecycle) :
    Option PollerRuntimeFence :=
  if self.owner ≠ .rustBridge ∨ lifecycle ≠ .running ∨ self.numericBotId ≤ 0 ∨ self.epoch = 0 ∨
      isBlank self.internalBotId = true ∨ isBlank self.runtimeInstanceId = true then none
  else
    some { telegramBotId := self.numericBotId
           owner := self.owner.asStr
           epoch := self.epoch
           internalBotId := self.internalBotId
           runtimeInstanceId := self.runtimeInstanceId }

end ImBridge
