import AgentCommerce.Config.Backend
import AgentCommerce.Config.ResourceSchema
import AgentCommerce.Config.SchemaKeywords
import AgentCommerce.X402.Requirement

/-!
# Resources of the configuration

`normalizeResource`: the business rules of one resource entry, and the resource the gateway serves.
Of the other sections it reads which protocols and rails are enabled, and the decimals and symbols
of the x402 offers.

## Main definitions

* `RawResourceEntry`, `ConfigSections`: an entry, and what is read of the other sections;
* `validatePricingAmount`: the price check;
* `normalizeResource`: the resource of an entry.

## Main results

* `normalizeResource_ok`: what an accepted entry has passed.
-/

namespace AgentCommerce

/-! ## Entries -/

/-- A resource entry, in the shape that its Zod schema leaves. -/
structure RawResourceEntry where
  name : String
  description : Option String
  input : Option JsonMembers
  output : Option JsonMembers
  mimeType : Option String
  backend : RawBackend
  pricing : Pricing
  expose : List String
  payments : Option (List String)
  paymentFlow : Option X402.X402PaymentFlow
  /-- The entry states x402 offers of its own. -/
  x402 : Bool
  /-- `authorization.required`. -/
  authorization : Option (List String)

/-- `X402OfferTerms`, as far as a price is checked against them. -/
structure X402OfferTerms where
  /-- The decimals of the asset of every option. -/
  assetDecimals : List ℕ
  defaultAssetSymbols : List String

/-- `NormalizedX402`. -/
structure NormalizedX402 where
  enabled : Bool
  terms : X402OfferTerms
  /-- The resources with terms of their own. -/
  resources : List (String × X402OfferTerms)

/-- The sections that the check of a resource reads. -/
structure ConfigSections where
  httpEnabled : Bool
  mcpEnabled : Bool
  a2aEnabled : Bool
  acpEnabled : Bool
  x402 : Option NormalizedX402
  /-- `mpp.enabled`, of a configured rail. -/
  mpp : Option Bool
  /-- `ap2.enabled`, of a configured provider. -/
  ap2 : Option Bool

/-- The resource of an entry: a `CommerceResource`, whose schemas are documents. -/
structure LoadedResource where
  id : String
  name : String
  description : Option String
  inputSchema : JsonMembers
  outputSchema : Option JsonMembers
  handler : BackendHandler
  pricing : Pricing
  exposedVia : List String
  paymentMethods : List String
  /-- `authorization.required`. -/
  authorization : Option (List String)

/-- `PROTOCOL_NAMES`. -/
def protocolNames : List String := ["http", "mcp", "a2a", "acp"]

/-- `PAYMENT_METHOD_NAMES`. -/
def paymentMethodNames : List String := ["x402", "mpp"]

/-- `MPP_PROFILE.assetSymbol`. -/
def mppAssetSymbol : String := "USDC"

/-- `MPP_PROFILE.assetDecimals`. -/
def mppAssetDecimals : ℕ := 6

/-- A character of `MCP_TOOL_NAME_CHARS`. -/
def isMcpToolNameChar (c : Char) : Bool :=
  ('a' ≤ c && c ≤ 'z') || ('A' ≤ c && c ≤ 'Z') || ('0' ≤ c && c ≤ '9') ||
    c = '.' || c = '_' || c = '-'

/-- `MCP_TOOL_NAME_PATTERN.test(id)`. -/
def isMcpToolName (id : String) : Bool :=
  1 ≤ id.toList.length && id.toList.length ≤ 128 && id.toList.all isMcpToolNameChar

/-- `EMPTY_CLOSED_OBJECT_SCHEMA`. -/
def emptyClosedObjectSchema : JsonMembers :=
  [("type", .str "object"), ("properties", .obj []), ("additionalProperties", .bool false)]

section Checks

variable (platform : WebPlatform) (sections : ConfigSections) (id : String)
variable (entry : RawResourceEntry)

/-! ## Input and exposure -/

/-- `if (entry.input !== undefined) validateResourceSchemaKeywords(id, 'input', entry.input)`. -/
def checkInputSchema : Except CommerceError Unit :=
  match entry.input with
  | some input => validateResourceSchemaKeywords platform.jsonStringify id "input" input
  | none => .ok ()

/-- `if (inputProperties && typeof inputProperties === 'object')`: no reserved property. -/
def checkReservedProperties : Except CommerceError Unit :=
  match reservedInputFields.find? fun (reserved : String) =>
      (propertySchemas (entry.input.getD [])).hasOwn reserved with
  | some reserved =>
    .error (resourceError id ("declares an input property \"" ++ reserved ++
      "\", which is reserved by the gateway")
      ("resources." ++ id ++ ".input.properties." ++ reserved) [])
  | none => .ok ()

/-- One protocol of `expose` that is not supported. -/
def checkProtocol (protocol : String) : Except CommerceError Unit :=
  if protocolNames.contains protocol then .ok ()
  else
    .error (resourceError id ("exposes unsupported protocol \"" ++ protocol ++ "\"" ++
      (if protocol = "ucp" then " (UCP is planned, not supported in this release)" else "") ++
      ". Supported: " ++ ", ".intercalate protocolNames ++ ".")
      ("resources." ++ id ++ ".expose") [("protocol", .str protocol)])

/-- An exposed protocol is enabled. -/
def checkEnabled (protocol : String) (enabled : Bool) : Except CommerceError Unit :=
  if entry.expose.contains protocol && !enabled then
    .error (resourceError id ("is exposed via \"" ++ protocol ++ "\" but protocols." ++ protocol ++
      ".enabled is false") ("resources." ++ id ++ ".expose") [])
  else .ok ()

/-- The id of a resource exposed via MCP is the name of a tool. -/
def checkToolName : Except CommerceError Unit :=
  if entry.expose.contains "mcp" && !isMcpToolName id then
    .error (resourceError id ("is exposed via \"mcp\" but its id is not a legal MCP tool name " ++
      "(allowed: A-Z, a-z, 0-9, \"_\", \"-\", \".\", 1-128 chars)") ("resources." ++ id) [])
  else .ok ()

/-- The checks of `expose`. -/
def checkExposure : Except CommerceError Unit := do
  entry.expose.forM (checkProtocol id)
  checkEnabled id entry "mcp" sections.mcpEnabled
  checkToolName id entry
  checkEnabled id entry "a2a" sections.a2aEnabled
  checkEnabled id entry "acp" sections.acpEnabled
  checkEnabled id entry "http" sections.httpEnabled

/-! ## The backend -/

/-- The checks of the backend block. -/
def checkBackend : Except CommerceError Unit := do
  validateBackendUrl platform id entry.backend.url
  validateBackendHeaders id entry.backend.headers
  let scope ← validateInputBindings id entry.backend entry.input
  validatePathParametersDeclared platform id entry.backend.url scope.schema scope.place

/-! ## The price -/

/-- `ZERO_AMOUNT_PATTERN`, of the integer part and the rest from the point on. -/
def isZeroAmount (integerPart rest : List Char) : Bool :=
  integerPart = ['0'] && (rest.isEmpty || (1 < rest.length && rest.tail.all (· = '0')))

/-- `validatePricingAmount`. -/
def validatePricingAmount (amount : String) (decimals : Option ℕ) : Except CommerceError Unit :=
  let integerPart := amount.toList.takeWhile (· ≠ '.')
  let rest := amount.toList.dropWhile (· ≠ '.')
  let path := "resources." ++ id ++ ".pricing.amount"
  if !X402.isDecimal integerPart rest then
    .error (resourceError id ("has pricing.amount \"" ++ amount ++ "\", which is not a plain " ++
      "positive decimal (no currency symbol, no thousands separator, no exponent - e.g. \"0.01\")")
      path [])
  else if isZeroAmount integerPart rest then
    .error (resourceError id ("has pricing.amount \"0\" - a paid resource cannot cost zero; use " ++
      "\"pricing: \x7b type: free \x7d\" instead") path [])
  else if decimals.any (· < rest.tail.length) then
    .error (resourceError id ("has pricing.amount \"" ++ amount ++ "\" with more precision (" ++
      toString rest.tail.length ++ " fractional digits) than the configured asset supports (" ++
      toString (decimals.getD 0) ++ " decimals)") path [])
  else .ok ()

/-- The payment methods of the entry. -/
def RawResourceEntry.methods : List String := entry.payments.getD []

/-- `x402.resources[id] ?? x402`: the terms of the resource's offers, whose id is no name that every
object inherits. -/
def offersOf (x402 : NormalizedX402) : X402OfferTerms := (x402.resources.lookup id).getD x402.terms

/-- The decimals of the assets in which an x402 price is charged. -/
def x402Decimals : List ℕ :=
  if entry.methods.contains "x402" then
    (sections.x402.map fun x402 => (offersOf id x402).assetDecimals).getD []
  else []

/-- An offer of its own needs the x402 rail, a fixed price and the method. -/
def checkOwnOffers : Except CommerceError Unit :=
  let path := "resources." ++ id ++ ".x402"
  if !entry.x402 then .ok ()
  else if sections.x402.isNone then
    .error (resourceError id "sets x402.accepts, but payments.x402 is not configured" path [])
  else if !(entry.pricing matches .fixed ..) || !entry.methods.contains "x402" then
    .error (resourceError id
      "sets x402.accepts, which requires fixed pricing and \"x402\" in payments" path [])
  else .ok ()

/-- One method that a fixed price names. -/
def checkMethod (method : String) : Except CommerceError Unit :=
  if paymentMethodNames.contains method then .ok ()
  else
    .error (resourceError id ("names unsupported payment method \"" ++ method ++ "\". Supported: " ++
      ", ".intercalate paymentMethodNames ++ ".") ("resources." ++ id ++ ".payments")
      [("method", .str method)])

/-- At least one method is that of an enabled rail. -/
def checkRails : Except CommerceError Unit :=
  let enabledRails := (if sections.x402.any (·.enabled) then ["x402"] else []) ++
    (if sections.mpp.getD false then ["mpp"] else [])
  if entry.methods.any enabledRails.contains then .ok ()
  else
    .error (resourceError id ("names payment method(s) \"" ++ ", ".intercalate entry.methods ++
      "\", none of which is configured and enabled under \"payments\"")
      ("resources." ++ id ++ ".payments")
      [("paymentMethods", .arr (entry.methods.map .str))])

/-- The methods that a fixed price names. -/
def checkMethods : Except CommerceError Unit :=
  if entry.methods.isEmpty then
    .error (resourceError id ("has fixed pricing but declares no \"payments\" (a paid resource " ++
      "must name at least one payment method)") ("resources." ++ id ++ ".payments") [])
  else do
    entry.methods.forM (checkMethod id)
    checkRails sections id entry

/-- The currency of a fixed price, for offers in a network's default asset. -/
def checkCurrency (currency : String) : Except CommerceError Unit :=
  let symbols := (sections.x402.map fun x402 => (offersOf id x402).defaultAssetSymbols).getD []
  if sections.x402.any (·.enabled) && !symbols.isEmpty && entry.methods.contains "x402" &&
      currency ≠ "USD" && !(symbols = [currency]) then
    let tokens := " and ".intercalate symbols
    .error (resourceError id ("is priced in " ++ currency ++ ", but x402 settles in " ++ tokens ++
      ", the default asset of its network. Price it in " ++
      (if symbols.length = 1 then tokens ++ " or " else "") ++ "USD.")
      ("resources." ++ id ++ ".pricing.currency") [])
  else .ok ()

/-- MPP fixes the currency and the decimals of what it charges. -/
def checkMpp (amount currency : String) : Except CommerceError Unit :=
  if sections.mpp.getD false && entry.methods.contains "mpp" then
    if currency ≠ mppAssetSymbol then
      .error (resourceError id ("is priced in " ++ currency ++ ", but MPP charges " ++
        mppAssetSymbol) ("resources." ++ id ++ ".pricing.currency") [])
    else validatePricingAmount id amount (some mppAssetDecimals)
  else .ok ()

/-- The checks of a price. -/
def checkPricing : Except CommerceError Unit :=
  match entry.pricing with
  | .dynamic _ =>
    .error (resourceError id
      "uses pricing.type \"dynamic\", which is not supported in this release"
      ("resources." ++ id ++ ".pricing.type") [])
  | .free => checkOwnOffers sections id entry
  | .fixed amount currency => do
    checkOwnOffers sections id entry
    -- an x402 price is charged in the asset of every option, so the coarsest one bounds it
    validatePricingAmount id amount (x402Decimals sections id entry).min?
    checkMethods sections id entry
    checkCurrency sections id entry currency
    checkMpp sections id entry amount currency

/-- `paymentFlow` and `mimeType` need a fixed price and a rail. -/
def checkPaidFields : Except CommerceError Unit :=
  let fixed := entry.pricing matches .fixed ..
  if entry.paymentFlow.isSome &&
      (!fixed || !entry.methods.any fun method => method = "x402" || method = "mpp") then
    .error (resourceError id
      "sets paymentFlow, which requires fixed pricing and \"x402\" or \"mpp\" in payments"
      ("resources." ++ id ++ ".paymentFlow") [])
  else if entry.mimeType.isSome && (!fixed || !entry.methods.contains "x402") then
    .error (resourceError id
      "sets mimeType, which requires fixed pricing and \"x402\" in payments"
      ("resources." ++ id ++ ".mimeType") [])
  else .ok ()

/-! ## Authorization -/

/-- The label of a pricing. -/
def pricingType : Pricing → String
  | .free => "free"
  | .fixed .. => "fixed"
  | .dynamic _ => "dynamic"

/-- An error of `normalizeResourceAuthorization`. -/
def authorizationError (message : String) (details : Members) : CommerceError :=
  configError message
    ([("path", .str ("resources." ++ id ++ ".authorization.required")), ("resourceId", .str id)] ++
      details)

/-- The loop over the required methods, where `methods` holds the ones before. -/
def authorizationMethods (methods : List String) :
    List String → Except CommerceError (List String)
  | [] => .ok methods
  | method :: required =>
    let details : Members := [("method", .str method)]
    if method ≠ "ap2" then
      .error (authorizationError id ("Resource \"" ++ id ++
        "\" requires unsupported authorization method \"" ++ method ++ "\". Supported: ap2.")
        details)
    else if methods.contains method then
      .error (authorizationError id ("Resource \"" ++ id ++ "\" lists authorization method \"" ++
        method ++ "\" twice") details)
    else if !sections.ap2.getD false then
      .error (authorizationError id ("Resource \"" ++ id ++ "\" requires authorization method " ++
        "\"ap2\", which is not configured or not enabled under authorization.ap2") details)
    else authorizationMethods (methods ++ [method]) required

/-- `normalizeResourceAuthorization`. -/
def normalizeResourceAuthorization : Except CommerceError (Option (List String)) :=
  match entry.authorization with
  | none => .ok none
  | some required => do
    let methods ← authorizationMethods sections id [] required
    match entry.pricing with
    | .fixed .. => return some methods
    | pricing =>
      throw (authorizationError id ("Resource \"" ++ id ++
        "\" requires authorization but its pricing is \"" ++ pricingType pricing ++
        "\" - authorization proves a purchase was approved and never replaces payment, so it " ++
        "applies to fixed-price paid resources only in this release") [])

/-! ## The resource -/

/-- The timeout of the handler. -/
def normalizeTimeout : Except CommerceError (Option ℤ) :=
  match entry.backend.timeoutMs with
  | none => .ok none
  | some timeoutMs =>
    some <$> toNumber timeoutMs ("resources." ++ id ++ ".backend.timeoutMs") (some 1) none

/-- `normalizeResource`. -/
def normalizeResource : Except CommerceError LoadedResource := do
  checkInputSchema platform id entry
  checkReservedProperties id entry
  checkExposure sections id entry
  checkBackend platform id entry
  checkPricing sections id entry
  checkPaidFields id entry
  let authorization ← normalizeResourceAuthorization sections id entry
  let timeoutMs ← normalizeTimeout id entry
  return {
    id := id
    name := entry.name
    description := entry.description
    inputSchema := (entry.input.map defaultClosedObjectSchema).getD emptyClosedObjectSchema
    outputSchema := entry.output
    handler :=
      { method := entry.backend.method
        url := entry.backend.url
        headers := entry.backend.headers
        timeoutMs := timeoutMs
        inputBindings := entry.backend.inputBindings }
    pricing := entry.pricing
    exposedVia := entry.expose
    paymentMethods := entry.methods
    authorization := authorization }

/-! ## Accepted entries -/

/-- What an accepted entry has passed, and the resource it becomes. -/
structure Accepted (resource : LoadedResource) : Prop where
  keywords : ∀ input, entry.input = some input →
    validateResourceSchemaKeywords platform.jsonStringify id "input" input = .ok ()
  reserved : checkReservedProperties id entry = .ok ()
  exposure : checkExposure sections id entry = .ok ()
  backend : checkBackend platform id entry = .ok ()
  pricing : checkPricing sections id entry = .ok ()
  paid : checkPaidFields id entry = .ok ()
  timeout : normalizeTimeout id entry = .ok resource.handler.timeoutMs
  inputSchema : resource.inputSchema =
    (entry.input.map defaultClosedObjectSchema).getD emptyClosedObjectSchema
  method : resource.handler.method = entry.backend.method
  url : resource.handler.url = entry.backend.url
  headers : resource.handler.headers = entry.backend.headers
  inputBindings : resource.handler.inputBindings = entry.backend.inputBindings
  price : resource.pricing = entry.pricing

variable {platform sections id entry}

/-- An accepted entry has passed every check. -/
theorem normalizeResource_ok {resource : LoadedResource}
    (h : normalizeResource platform sections id entry = .ok resource) :
    Accepted platform sections id entry resource := by
  unfold normalizeResource at h
  obtain ⟨_, hkeywords, h⟩ := bind_eq_ok.mp h
  obtain ⟨_, hreserved, h⟩ := bind_eq_ok.mp h
  obtain ⟨_, hexposure, h⟩ := bind_eq_ok.mp h
  obtain ⟨_, hbackend, h⟩ := bind_eq_ok.mp h
  obtain ⟨_, hpricing, h⟩ := bind_eq_ok.mp h
  obtain ⟨_, hpaid, h⟩ := bind_eq_ok.mp h
  obtain ⟨authorization, -, h⟩ := bind_eq_ok.mp h
  obtain ⟨timeoutMs, htimeout, h⟩ := bind_eq_ok.mp h
  obtain rfl := Except.ok.inj h
  exact
    { keywords := fun input hinput => by
        rw [checkInputSchema, hinput] at hkeywords
        exact hkeywords
      reserved := hreserved
      exposure := hexposure
      backend := hbackend
      pricing := hpricing
      paid := hpaid
      timeout := htimeout
      inputSchema := rfl
      method := rfl
      url := rfl
      headers := rfl
      inputBindings := rfl
      price := rfl }

end Checks

end AgentCommerce
