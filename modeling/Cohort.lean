import Cohort.Directory
import Cohort.Main
import Cohort.Session.Tasks
import Cohort.Proofs.Batches
import Cohort.Proofs.Flight.Abandonment
import Cohort.Proofs.Flight.Bystanders
import Cohort.Proofs.Flight.Registry
import Cohort.Proofs.Flight.Roll
import Cohort.Proofs.Flight.Watches
import Cohort.Proofs.Limit.Places
import Cohort.Proofs.Manager.Failures
import Cohort.Proofs.Manager.Fates
import Cohort.Proofs.Session.SharedCreations
import Cohort.Proofs.CommandLine.Arguments
import Cohort.Proofs.Scenario.ReportLines
import Cohort.Proofs.Scenario.Suites
