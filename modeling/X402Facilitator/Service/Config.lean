import X402Facilitator.Evm.Transaction
import X402Facilitator.Protocol.Request

/-!
# Configuration

The part of the service configuration that settlement reads, the launch policy it is validated
against, and the chain provider that is built from it. An `AppState` exists only for a configuration
that passed validation and a provider that was built from it.

Decimal text is represented by the number it denotes.
-/

namespace X402Facilitator

inductive Environment where
  | mainnet
  | testnet
deriving DecidableEq, Repr

def Environment.network : Environment → String
  | mainnet => "near:mainnet"
  | testnet => "near:testnet"

/-- The reference part of the NEAR chain id. -/
def Environment.chainReference : Environment → String
  | mainnet => "mainnet"
  | testnet => "testnet"

def ChainKind.asStr : ChainKind → String
  | near => "near"
  | eip155 => "eip155"

def nearMainnetUsdc : String := "17208628f84f5d6ad33f0da3bbbeb27ffcb398eac501a31bd6ad2011e36133a1"
def nearTestnetUsdc : String := "3e2210e1184b45b64c8a434c0a7e7b23cc04ea7eb7a6c3c32520d03d4afcb8af"
def baseMainnetUsdc : String := "0x833589fcd6edb6e08f4c7c32d4f71b54bda02913"
def baseSepoliaUsdc : String := "0x036cbd53842c5426634e7929541ec2318f3dcf7e"

structure Eip155Config where
  chainId : Nat
  requiredConfirmations : Nat
  gasLimit : Nat
  maxFeePerGasWei : Nat
deriving DecidableEq

structure ServiceConfig where
  environment : Environment
  chainKind : ChainKind
  network : String
  asset : String
  minimumAmount : Nat
  relayerAccountId : String
  maxInnerGas : Nat
  globalDailyYoctoNear : Nat
  defaultClientDailyYoctoNear : Nat
  reservationYoctoNear : Nat
  balanceWarningYoctoNear : Nat
  balanceHardStopYoctoNear : Nat
  paymentIdentifier : PaymentIdentifierConfig
  acceptV1 : Bool
  eip155 : Option Eip155Config
deriving DecidableEq

def isEvmAddress (value : String) : Bool :=
  match value.toList with
  | '0' :: 'x' :: hex => hex.length = 40 && hex.all fun c =>
      c.isDigit || ('a' ≤ c && c ≤ 'f') || ('A' ≤ c && c ≤ 'F')
  | _ => false

namespace ServiceConfig

def validateNear (config : ServiceConfig) : Except String Unit :=
  if config.network ≠ config.environment.network then
    .error ("network " ++ config.network ++ " does not match environment")
  else if config.asset ≠ (match config.environment with
      | .mainnet => nearMainnetUsdc
      | .testnet => nearTestnetUsdc) then
    .error ("asset must be the canonical Circle USDC contract for " ++ config.network)
  else if (AccountId.parse config.asset).isNone then .error "invalid asset account ID"
  else if (AccountId.parse config.relayerAccountId).isNone then .error "invalid relayer_account_id"
  else if config.maxInnerGas ≠ 30000000000000 then
    .error "max_inner_gas must be exactly 30000000000000 for the launch policy"
  else .ok ()

def validateEip155 (config : ServiceConfig) : Except String Unit :=
  let (expectedChainId, expectedUsdc) := match config.environment with
    | .mainnet => (8453, baseMainnetUsdc)
    | .testnet => (84532, baseSepoliaUsdc)
  match config.eip155 with
  | none => .error "eip155 chain_kind requires an eip155 configuration block"
  | some eip155 =>
    if eip155.chainId ≠ expectedChainId then
      .error ("eip155.chain_id must be " ++ toString expectedChainId)
    else if config.network ≠ "eip155:" ++ toString expectedChainId then
      .error ("network must be eip155:" ++ toString expectedChainId)
    else if ¬ eqIgnoreAsciiCase config.asset expectedUsdc then
      .error ("asset must be the canonical Circle USDC contract " ++ expectedUsdc)
    else if ¬ isEvmAddress config.relayerAccountId then
      .error "relayer_account_id must be the EVM signer's 0x address"
    else if config.maxInnerGas ≠ 0 then
      .error "max_inner_gas must be 0 for eip155 (EVM has no inner-gas ceiling)"
    else if eip155.requiredConfirmations = 0 then
      .error "eip155.required_confirmations must be at least 1"
    else if 2147483647 < eip155.requiredConfirmations then
      .error "eip155.required_confirmations must fit a signed 32-bit journal field"
    else if eip155.gasLimit < 21000 ∨ 1000000 < eip155.gasLimit then
      .error "eip155.gas_limit must be between 21000 and 1000000"
    else if 2 ^ 128 ≤ eip155.maxFeePerGasWei then
      .error "eip155.max_fee_per_gas_wei must fit an unsigned 128-bit integer"
    else if eip155.maxFeePerGasWei = 0 then
      .error "eip155.max_fee_per_gas_wei must be positive"
    else if 2 ^ 128 ≤ eip155.gasLimit * eip155.maxFeePerGasWei then
      .error "eip155 gas limit multiplied by max fee per gas overflows"
    else if 2 ^ 128 ≤ config.reservationYoctoNear then
      .error "eip155 sponsorship reservation must fit an unsigned 128-bit integer"
    else if config.reservationYoctoNear ≤ eip155.gasLimit * eip155.maxFeePerGasWei then
      .error "eip155 sponsorship reservation must exceed gas_limit × max_fee_per_gas_wei"
    else .ok ()

/-- The launch policy, without its conditions on URLs, addresses and request limits. -/
def validate (config : ServiceConfig) : Except String Unit :=
  if config.minimumAmount < 1000 then .error "minimum_amount must be at least 1000 atomic USDC"
  else if ¬ config.balanceHardStopYoctoNear < config.balanceWarningYoctoNear then
    .error "sponsorship.balance_hard_stop_yocto_near must be below the warning threshold"
  else if config.defaultClientDailyYoctoNear < config.reservationYoctoNear ∨
      config.globalDailyYoctoNear < config.reservationYoctoNear then
    .error "sponsorship reservation must not exceed either daily cap"
  else if config.paymentIdentifier.minLength ≠ 16 ∨ config.paymentIdentifier.maxLength ≠ 128 then
    .error "payment_identifier bounds must match the x402 extension (16..=128)"
  else if config.acceptV1 ∧ config.chainKind = .near then
    .error "accept_v1 requires an eip155 chain_kind (x402 v1 never covered NEAR)"
  else
    match config.chainKind with
    | .near => config.validateNear
    | .eip155 => config.validateEip155

def policySnapshot (config : ServiceConfig) : Json :=
  let natural (n : Nat) : Json := .number (.posInt n)
  let eip155 : Json := match config.eip155 with
    | none => .null
    | some eip155 => .object [
        ("chainId", natural eip155.chainId),
        ("requiredConfirmations", natural eip155.requiredConfirmations),
        ("gasLimit", natural eip155.gasLimit),
        ("maxFeePerGasWei", .string (toString eip155.maxFeePerGasWei))]
  .object [
    ("chainKind", .string config.chainKind.asStr),
    ("network", .string config.network),
    ("asset", .string config.asset),
    ("minimumAmount", .string (toString config.minimumAmount)),
    ("maxInnerGas", natural config.maxInnerGas),
    ("reservationYoctoNear", .string (toString config.reservationYoctoNear)),
    ("eip155", eip155)]

end ServiceConfig

def signerIsFunded (config : ServiceConfig) (balance : Nat) : Bool :=
  let hardStop := config.balanceHardStopYoctoNear
  if 2 ^ 128 ≤ hardStop then false
  else match config.chainKind with
    | .near => hardStop ≤ balance
    | .eip155 =>
      config.reservationYoctoNear < 2 ^ 128 ∧ hardStop + config.reservationYoctoNear < 2 ^ 128 ∧
        hardStop + config.reservationYoctoNear ≤ balance

def evmReservationCoversLiability (config : ServiceConfig) (estimatedL1Fee : Nat) : Bool :=
  match config.eip155 with
  | none => false
  | some eip155 =>
    let l2 := eip155.gasLimit * eip155.maxFeePerGasWei
    eip155.maxFeePerGasWei < 2 ^ 128 ∧ config.reservationYoctoNear < 2 ^ 128 ∧ l2 < 2 ^ 128 ∧
      l2 + estimatedL1Fee < 2 ^ 128 ∧ l2 + estimatedL1Fee ≤ config.reservationYoctoNear

def configuredAssetMatches (chainKind : ChainKind) (configured requested : String) : Bool :=
  match chainKind with
  | .near => requested = configured
  | .eip155 => eqIgnoreAsciiCase requested configured

/-- The asset of a validated NEAR configuration is an account id. -/
theorem ServiceConfig.validAccountId_asset {config : ServiceConfig}
    (h : config.validate = .ok ()) (hnear : config.chainKind = .near) :
    validAccountId config.asset = true := by
  unfold validate at h
  split_ifs at h
  rw [hnear] at h
  dsimp only at h
  unfold validateNear at h
  split_ifs at h with _ hasset
  rw [ne_eq, not_not] at hasset
  rw [hasset]
  cases config.environment <;> decide

/-- What the launch policy says about an EVM configuration. -/
structure ServiceConfig.LaunchesEip155 (config : ServiceConfig) (eip155 : Eip155Config) : Prop where
  chainId : eip155.chainId = 8453 ∨ eip155.chainId = 84532
  network : config.network = "eip155:" ++ toString eip155.chainId
  asset : eqIgnoreAsciiCase config.asset baseMainnetUsdc ∨
    eqIgnoreAsciiCase config.asset baseSepoliaUsdc
  confirmations : 0 < eip155.requiredConfirmations ∧ eip155.requiredConfirmations < 2 ^ 31
  gasLimit : 0 < eip155.gasLimit ∧ eip155.gasLimit < 2 ^ 64
  maxFeePerGasWei : 0 < eip155.maxFeePerGasWei ∧ eip155.maxFeePerGasWei < 2 ^ 128
  reservation : eip155.gasLimit * eip155.maxFeePerGasWei < config.reservationYoctoNear ∧
    config.reservationYoctoNear < 2 ^ 128

theorem ServiceConfig.launchesEip155 {config : ServiceConfig} (h : config.validate = .ok ())
    (hkind : config.chainKind = .eip155) {eip155 : Eip155Config}
    (heip155 : config.eip155 = some eip155) : config.LaunchesEip155 eip155 := by
  have hvalid : config.validateEip155 = .ok () := by
    obtain ⟨-, h⟩ := Except.of_ite_error h
    obtain ⟨-, h⟩ := Except.of_ite_error h
    obtain ⟨-, h⟩ := Except.of_ite_error h
    obtain ⟨-, h⟩ := Except.of_ite_error h
    obtain ⟨-, h⟩ := Except.of_ite_error h
    rwa [hkind] at h
  unfold validateEip155 at hvalid
  rw [heip155] at hvalid
  obtain ⟨hchain, hvalid⟩ := Except.of_ite_error hvalid
  obtain ⟨hnetwork, hvalid⟩ := Except.of_ite_error hvalid
  obtain ⟨hasset, hvalid⟩ := Except.of_ite_error hvalid
  obtain ⟨-, hvalid⟩ := Except.of_ite_error hvalid
  obtain ⟨-, hvalid⟩ := Except.of_ite_error hvalid
  obtain ⟨hzero, hvalid⟩ := Except.of_ite_error hvalid
  obtain ⟨hmax, hvalid⟩ := Except.of_ite_error hvalid
  obtain ⟨hgas, hvalid⟩ := Except.of_ite_error hvalid
  obtain ⟨hfee, hvalid⟩ := Except.of_ite_error hvalid
  obtain ⟨hfee', hvalid⟩ := Except.of_ite_error hvalid
  obtain ⟨-, hvalid⟩ := Except.of_ite_error hvalid
  obtain ⟨hreservation, hvalid⟩ := Except.of_ite_error hvalid
  obtain ⟨hcovers, -⟩ := Except.of_ite_error hvalid
  rw [not_not] at hchain hnetwork hasset
  refine ⟨?_, ?_, ?_, ?_, ?_, ?_, ?_⟩
  · rw [hchain]
    cases config.environment
    · exact .inl rfl
    · exact .inr rfl
  · rw [hnetwork, hchain]
  · revert hasset
    cases config.environment
    · exact .inl
    · exact .inr
  all_goals omega

/-! ## Providers -/

/-- What an `EvmChainProvider` is configured with. -/
structure EvmProvider where
  secretKey : Bytes
  chainId : Nat
  asset : Address
  requiredConfirmations : Nat
  gasLimit : Nat
  maxFeePerGas : Nat
  transferDomainName : String
deriving DecidableEq

inductive ChainProvider where
  | near (relayer : NearProvider)
  | evm (provider : EvmProvider)
deriving DecidableEq

def canonicalDomainName : Nat → Option String
  | 8453 => some "USD Coin"
  | 84532 => some "USDC"
  | _ => none

def EvmProvider.caip2 (provider : EvmProvider) : String :=
  "eip155:" ++ toString provider.chainId

def EvmProvider.transferDomain (provider : EvmProvider) : Eip712Domain where
  name := provider.transferDomainName
  version := "2"
  chainId := some provider.chainId
  verifyingContract := some provider.asset
  salt := none

section
variable [NearPrimitives] [EvmPrimitives]

def EvmProvider.signerAddress (provider : EvmProvider) : Address :=
  addressOf provider.secretKey

def buildChainProvider (config : ServiceConfig) (relayerKey : Bytes) :
    Except String ChainProvider :=
  match config.chainKind with
  | .near =>
    match AccountId.parse config.relayerAccountId with
    | none => .error "parse relayer account"
    | some account => .ok (.near {
        chainReference := config.environment.chainReference
        accountId := account
        publicKey := NearPrimitives.publicKeyOf relayerKey
        secretKey := relayerKey })
  | .eip155 =>
    match config.eip155, parseAddress config.asset with
    | none, _ => .error "eip155 configuration block missing after validation"
    | some _, none => .error "asset is not a valid 0x address"
    | some eip155, some asset =>
      if eip155.requiredConfirmations = 0 ∨ eip155.gasLimit = 0 ∨ eip155.maxFeePerGasWei = 0 then
        .error "confirmations, gas limit, and max fee per gas must be positive"
      else
        match canonicalDomainName eip155.chainId with
        | none =>
          .error "durable Circle USDC settlement supports Base mainnet and Base Sepolia only"
        | some name =>
          if ¬ eqIgnoreAsciiCase config.relayerAccountId (addressText (addressOf relayerKey)) then
            .error "config relayer_account_id does not match the EVM signer address"
          else .ok (.evm {
            secretKey := relayerKey
            chainId := eip155.chainId
            asset := asset
            requiredConfirmations := eip155.requiredConfirmations
            gasLimit := eip155.gasLimit
            maxFeePerGas := eip155.maxFeePerGasWei
            transferDomainName := name })

/-- The state every request, worker and background task of a process shares. -/
structure AppState where
  config : ServiceConfig
  relayerKey : Bytes
  provider : ChainProvider
  validated : config.validate = .ok ()
  built : buildChainProvider config relayerKey = .ok provider

/-- `signer_account_id`. -/
def ChainProvider.signerAccountId : ChainProvider → String
  | near relayer => relayer.accountId.text
  | evm provider => addressText provider.signerAddress

/-- `signer_public_key`; an EVM signer's address doubles as its key. -/
def ChainProvider.signerPublicKey : ChainProvider → String
  | near relayer => relayer.publicKey
  | evm provider => addressText provider.signerAddress

def ChainProvider.requiredConfirmations : ChainProvider → Option Nat
  | near _ => none
  | evm provider => some provider.requiredConfirmations

def AppState.relayerRow (state : AppState) : RelayerKey where
  network := state.config.network
  accountId := state.provider.signerAccountId
  publicKey := state.provider.signerPublicKey

/-- The provider serves the configured chain. -/
theorem AppState.chainKind_of_near (state : AppState) {relayer : NearProvider}
    (h : state.provider = .near relayer) : state.config.chainKind = .near := by
  have hbuilt := state.built
  rw [h] at hbuilt
  unfold buildChainProvider at hbuilt
  cases hkind : state.config.chainKind with
  | near => rfl
  | eip155 =>
    rw [hkind] at hbuilt
    dsimp only at hbuilt
    split at hbuilt <;> try cases hbuilt
    split at hbuilt <;> try cases hbuilt
    split at hbuilt <;> try cases hbuilt
    split at hbuilt <;> cases hbuilt

/-- An EVM provider has what its configuration says. -/
structure EvmProvider.Serves (provider : EvmProvider) (config : ServiceConfig) (relayerKey : Bytes) :
    Prop where
  chainKind : config.chainKind = .eip155
  eip155 : config.eip155 = some ⟨provider.chainId, provider.requiredConfirmations,
    provider.gasLimit, provider.maxFeePerGas⟩
  asset : parseAddress config.asset = some provider.asset
  secretKey : provider.secretKey = relayerKey

theorem AppState.serves (state : AppState) {provider : EvmProvider}
    (h : state.provider = .evm provider) : provider.Serves state.config state.relayerKey := by
  have hbuilt := state.built
  rw [h] at hbuilt
  unfold buildChainProvider at hbuilt
  cases hkind : state.config.chainKind with
  | near =>
    rw [hkind] at hbuilt
    dsimp only at hbuilt
    split at hbuilt <;> cases hbuilt
  | eip155 =>
    rw [hkind] at hbuilt
    dsimp only at hbuilt
    split at hbuilt <;> try cases hbuilt
    rename_i eip155 asset heip155 hasset
    split at hbuilt <;> try cases hbuilt
    split at hbuilt <;> try cases hbuilt
    split at hbuilt <;> try cases hbuilt
    exact ⟨hkind, heip155, hasset, rfl⟩

/-- The provider of a validated configuration is on the configured network. -/
theorem AppState.network_of_evm (state : AppState) {provider : EvmProvider}
    (h : state.provider = .evm provider) : state.config.network = provider.caip2 := by
  have hserves := state.serves h
  exact (ServiceConfig.launchesEip155 state.validated hserves.chainKind hserves.eip155).network

end

end X402Facilitator
