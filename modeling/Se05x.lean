import Se05x.CppApp.CsrStrictProperties
import Se05x.Interaction.Procedure
import Se05x.Interaction.Serving
import Se05x.Host
import Se05x.Sss.Reference
import Se05x.CppApp.ContextLifetimeProperties
import Se05x.CppApp.RsaHandleProperties
import Se05x.CppApp.EcdhProperties
import Se05x.CppApp.CsrSigningProperties
import Se05x.CppApp.MainProperties
import Se05x.App.CsrAgreement
import Se05x.App.FreshKeysProperties
import Se05x.Pkcs11.ReviewProperties
import Se05x.Pkcs11.OwnershipProperties
import Se05x.Pkcs11.OperationsProperties
import Se05x.CppApp.EcdhScratchProperties
import Se05x.CppApp.CsrOutputProperties
import Se05x.CppApp.CsrCapacityProperties
import Se05x.CppApp.KeyIdProperties
import Se05x.CppApp.ArgumentsProperties
import Se05x.App.CsrCleanupProperties
import Se05x.Pkcs11.Inventory
import Se05x.Pkcs11.VisitProperties
import Se05x.CppApp.OutputSizeProperties
import Se05x.CppApp.RoundTripProperties
import Se05x.Der.PemReading
import Se05x.CppApp.ExitProperties
import Se05x.App.LifetimesProperties
import Se05x.Pkcs11.VerdictProperties
import Se05x.Pkcs11.CooperationProperties
import Se05x.App.CompletionProperties
