import CorazaOperator.Apimachinery.Conditions
import CorazaOperator.Apimachinery.Unstructured
import CorazaOperator.Apimachinery.Controllerutil
import CorazaOperator.Apimachinery.Validation
import CorazaOperator.Api.Types
import CorazaOperator.Client.Store
import CorazaOperator.Client.Prog
import CorazaOperator.Client.WellFormed
import CorazaOperator.Client.Watch
import CorazaOperator.Controller.Utils
import CorazaOperator.Controller.WAFPolicy
import CorazaOperator.Runtime.Workqueue
import CorazaOperator.Runtime.Handler
import CorazaOperator.Controller.Setup
import CorazaOperator.Proof.Readiness
import CorazaOperator.Proof.Pass
import CorazaOperator.Proof.Resolution
import CorazaOperator.Proof.EngineSync
import CorazaOperator.Proof.Idempotence
import CorazaOperator.Proof.CreateOrUpdate
import CorazaOperator.Proof.WatchMappers
import CorazaOperator.Proof.Outcome
import CorazaOperator.System.World
import CorazaOperator.System.Observed
import CorazaOperator.System.PassRules
import CorazaOperator.System.StatusConditions
import CorazaOperator.System.Finalizer
import CorazaOperator.System.OptimisticLock
import CorazaOperator.System.EngineName
import CorazaOperator.System.NeverProgrammed
import CorazaOperator.System.Watches
import CorazaOperator.System.Manager
import CorazaOperator.System.OwnWrites
import CorazaOperator.System.Convergence
import CorazaOperator.System.StatusSync
import CorazaOperator.System.ObservedGeneration
import CorazaOperator.System.Namespaces
import CorazaOperator.System.ProgrammedEngine
