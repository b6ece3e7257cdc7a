import OrcTorrent.State

/-! `patch_policy` and `patch_kill_switch` of `orc-core/src/lib.rs`. The VPN reading of
`is_vpn_connected()` and the clock reading of `now_ms()` are arguments; `version` is a
`u64` counter, so its increment wraps at `2^64`. -/

namespace OrcTorrent

/-- The effective policy `patch_policy` derives from a desired one. -/
def effectiveOf (desired : DesiredPolicy) (networkAllowed : Bool) : EffectivePolicy where
  anonymousMode := desired.anonymousMode
  peerEncryption := desired.peerEncryption
  dhtHardening := desired.dhtHardening
  enforcePrivateTorrents := desired.enforcePrivateTorrents
  ipBlocklist := desired.ipBlocklist
  killSwitch := desired.killSwitch
  bindInterfaceOnly := desired.bindInterfaceOnly
  overlayPadding := desired.overlayPadding
  sybilResistance := desired.sybilResistance
  relayPowRequired := desired.relayPowRequired
  relaySubnetDiversity := desired.relaySubnetDiversity
  relayReputationWeighting := desired.relayReputationWeighting
  ipv6Enabled := desired.ipv6Enabled
  upnpNatpmpEnabled := desired.upnpNatpmpEnabled
  circuitRotationEnabled := desired.circuitRotationEnabled
  denyDirectExits := desired.denyDirectExits
  minimizeFingerprinting := desired.minimizeFingerprinting
  profile := desired.profile
  networkAllowed := networkAllowed
  discoveryAllowed := !desired.enforcePrivateTorrents
  directPeerAllowed := !desired.anonymousMode

def anonUpnpWarning : PolicyWarning where
  code := "anon_upnp"
  message :=
    "Anonymous mode is enabled while UPnP/NAT-PMP is enabled. Consider disabling port mapping."
  severity := .warn

def policyWarnings (desired : DesiredPolicy) : List PolicyWarning :=
  if desired.anonymousMode && desired.upnpNatpmpEnabled then [anonUpnpWarning] else []

/-- `version += 1` on a `u64`. -/
def bumpVersion (v : Nat) : Nat := (v + 1) % 2 ^ 64

/-- `patch_policy`, with `vpnConnected` the reading it takes when the kill switch is
enabled; it also returns the new policy. -/
def patchPolicy (s : OrcState) (desired : DesiredPolicy) (vpnConnected : Bool) (nowMs : Nat) :
    OrcState × PolicyState :=
  let networkAllowed := if s.killSwitch.enabled then vpnConnected else true
  let policy :=
    { s.policy with
      desired := desired
      effective := effectiveOf desired networkAllowed
      warnings := policyWarnings desired
      version := bumpVersion s.policy.version
      lastUpdatedMs := nowMs }
  ({ s with policy := policy }, policy)

/-- What `tick` does to the policy when `network_allowed` changes. -/
def PolicyState.flipNetworkAllowed (p : PolicyState) (b : Bool) (nowMs : Nat) : PolicyState :=
  { p with
    effective := { p.effective with networkAllowed := b }
    version := bumpVersion p.version
    lastUpdatedMs := nowMs }

structure PatchKillSwitchRequest where
  enabled : Option Bool
  scope : Option KillSwitchScope
  gracePeriodSec : Option Nat
  triggers : Option KillSwitchTriggers
  deriving DecidableEq, Repr

/-- The kill-switch configuration after `patch_kill_switch`. -/
def patchKillSwitchConfig (ks : KillSwitchConfig) (req : PatchKillSwitchRequest)
    (nowMs : Nat) : KillSwitchConfig :=
  let ks := match req.enabled with
    | some enabled =>
      { ks with
        enabled := enabled
        enforcementState := if enabled then .armed else .disarmed
        lastEnforcementMs := some nowMs }
    | none => ks
  { ks with
    scope := req.scope.getD ks.scope
    gracePeriodSec := req.gracePeriodSec.getD ks.gracePeriodSec
    triggers := req.triggers.getD ks.triggers }

theorem patchKillSwitchConfig_gracePeriodSec (ks : KillSwitchConfig)
    (req : PatchKillSwitchRequest) (nowMs : Nat) :
    (patchKillSwitchConfig ks req nowMs).gracePeriodSec = req.gracePeriodSec.getD ks.gracePeriodSec := by
  unfold patchKillSwitchConfig; split <;> rfl

def patchKillSwitch (s : OrcState) (req : PatchKillSwitchRequest) (nowMs : Nat) :
    OrcState × KillSwitchConfig :=
  let ks := patchKillSwitchConfig s.killSwitch req nowMs
  ({ s with killSwitch := ks }, ks)

/-! ## The policy invariant -/

/-- The effective policy is derived from the desired one, and the warnings are those of
the desired policy. -/
structure PolicyDerived (p : PolicyState) : Prop where
  effective : p.effective = effectiveOf p.desired p.effective.networkAllowed
  warnings : p.warnings = policyWarnings p.desired

theorem policyDerived_newState (downloadDir downloadDirPath : String) (startedAt nowMs : Nat) :
    PolicyDerived (newState downloadDir downloadDirPath startedAt nowMs).policy :=
  ⟨rfl, rfl⟩

theorem policyDerived_patchPolicy (s : OrcState) (desired : DesiredPolicy) (vpn : Bool)
    (nowMs : Nat) : PolicyDerived (patchPolicy s desired vpn nowMs).1.policy :=
  ⟨rfl, rfl⟩

theorem policyDerived_flipNetworkAllowed {p : PolicyState} (h : PolicyDerived p) (b : Bool)
    (nowMs : Nat) : PolicyDerived (p.flipNetworkAllowed b nowMs) :=
  ⟨by rw [PolicyState.flipNetworkAllowed, h.effective]; rfl, h.warnings⟩

/-- The anonymous-mode warning is listed exactly when the desired policy asks for
anonymous mode and port mapping at once. -/
theorem anonUpnp_mem_iff {p : PolicyState} (h : PolicyDerived p) :
    (∃ w ∈ p.warnings, w.code = "anon_upnp") ↔
      p.desired.anonymousMode = true ∧ p.desired.upnpNatpmpEnabled = true := by
  rw [h.warnings, policyWarnings]
  cases p.desired.anonymousMode <;> cases p.desired.upnpNatpmpEnabled <;> simp [anonUpnpWarning]

theorem patchKillSwitch_policy (s : OrcState) (req : PatchKillSwitchRequest) (nowMs : Nat) :
    (patchKillSwitch s req nowMs).1.policy = s.policy := rfl

end OrcTorrent
