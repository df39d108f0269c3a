import BoardSmoke.Main
import BoardSmoke.Proofs.Archive.Order
import BoardSmoke.Proofs.Channel.Narrowing
import BoardSmoke.Proofs.CommandLine.Options
import BoardSmoke.Proofs.Console.Answer
import BoardSmoke.Proofs.Console.Parts
import BoardSmoke.Proofs.Number.Accepted
import BoardSmoke.Proofs.SmokeTest.Absent
import BoardSmoke.Proofs.SmokeTest.Clean
import BoardSmoke.Proofs.SmokeTest.Files
import BoardSmoke.Proofs.SmokeTest.Order
import BoardSmoke.Proofs.SmokeTest.Received
import BoardSmoke.Proofs.SmokeTest.RoundTrip
import BoardSmoke.Proofs.SmokeTest.Segmentation
import BoardSmoke.Proofs.SmokeTest.Soundness
import BoardSmoke.Proofs.SmokeTest.Warnings
