import IdMint.Main
import IdMint.Proofs.Counting
import IdMint.Proofs.Drafting
import IdMint.Proofs.Interleaving
import IdMint.Proofs.Identifiers
import IdMint.Proofs.Uniqueness
import IdMint.Proofs.Encodings
import IdMint.Proofs.Listings
import IdMint.Proofs.Fingerprints
import IdMint.Proofs.Desks
import IdMint.Proofs.Hashing
import IdMint.Proofs.Rejections
import IdMint.Proofs.Sessions
import IdMint.Proofs.ClosedForm
import IdMint.Proofs.Promises
import IdMint.Proofs.SetUpOnce
import IdMint.Proofs.Refusals
import IdMint.Proofs.Precedence
import IdMint.Proofs.Alongside
import IdMint.Proofs.Indifference
import IdMint.Proofs.Consumption
import IdMint.Proofs.Lines
import IdMint.Proofs.Requests
import IdMint.Proofs.Invocations
import IdMint.Proofs.Consumers
import IdMint.Proofs.Independence
import IdMint.Proofs.SharedGenerator
import IdMint.Proofs.Rush
import IdMint.Proofs.InsertionOrder
import IdMint.Proofs.Layout
import IdMint.Proofs.Positional
import IdMint.Proofs.Packing
import IdMint.Proofs.Asking
import IdMint.Proofs.Accounts
import IdMint.Proofs.Seeding
